import GlobOracle.Batch

/-!
# The tools

Three tools are offered to callers: match one subject, filter a list, show the command of a match.  Their
options come as a mapping or not at all, and where a caller does not say whether errors are reported, the
configured default does.
-/

namespace GlobOracle

variable {σ : Type}

/-- A tool. -/
inductive Tool where
  /-- Matches one subject. -/
  | bashMatch
  /-- Filters a list. -/
  | bashMatchList
  /-- Shows the command of a match. -/
  | bashCompile
  deriving Repr, DecidableEq

namespace Tool

/-- The tools, in the order in which they are registered. -/
def all : List Tool := [bashMatch, bashMatchList, bashCompile]

/-- The name of a tool. -/
def name : Tool → String
  | bashMatch => "bash_match"
  | bashMatchList => "bash_match_list"
  | bashCompile => "bash_compile"

/-- Do some entries say whether errors are reported? -/
def mentionsPolicy (entries : List (String × Value)) : Bool :=
  entries.any fun entry => entry.1 == Field.strictErrors.name || entry.1 == Field.camelCaseKey

/-- The entries with the default policy behind them, if they do not mention any. -/
def withPolicy (strict : Bool) (entries : List (String × Value)) : List (String × Value) :=
  if mentionsPolicy entries then entries
  else entries ++ [(Field.strictErrors.name, .bool strict)]

/-- The options of a tool call, with the configured error policy as the default. -/
def options (strict : Bool) : Value → Except Failure Options
  | .null => Options.ofEntries (withPolicy strict [])
  | .mapping entries => Options.ofEntries (withPolicy strict entries)
  | _ => .error (.rejected .notAnObject)

/-- Matches one subject. -/
def matchOne (m : Matcher) (strict : Bool) (host : Host σ) (subject pattern input : Value) :
    Action σ Bool := do
  let o ← Action.ofExcept (options strict input)
  m.test host subject pattern o.value

/-- Filters a list. -/
def matchList (m : Matcher) (strict : Bool) (host : Host σ) (items pattern input : Value) :
    Action σ (List Value) := do
  let o ← Action.ofExcept (options strict input)
  m.filterConcurrently host items pattern o.value

/-- Shows the command of a match. -/
def compile (strict : Bool) (host : Host σ) (subject pattern input : Value) :
    Except Failure (List String) := do
  let o ← options strict input
  Matcher.compile host subject pattern o.value

end Tool

end GlobOracle
