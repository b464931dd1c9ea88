import GlobOracle.Client
import GlobOracle.Command

/-!
# Matching by asking the shell

A `Matcher` takes one subject, or goes through a list of items, against one pattern.  Every match goes the
same way: check the arguments and make the options canonical (`Matcher.request`), run the shell on the
command of the request and tell the outcome (`Matcher.evaluate`), then apply the error policy
(`Matcher.finish`).
-/

namespace GlobOracle

variable {σ : Type}

/-- How a matcher reaches the shell. -/
inductive Executor where
  /-- The host runs the arguments itself. -/
  | direct
  /-- A client launches the shell. -/
  | client (c : Client)
  deriving Repr, DecidableEq

/-- Runs the shell on the arguments of a command. -/
def Executor.run (executor : Executor) (host : Host σ) (arguments : List String)
    (directory : Value) : Action σ Reply :=
  match executor with
  | direct => Action.call host (.direct arguments directory)
  | client c => c.run host (.list (arguments.map Value.text)) directory

/-- Turns a value into a whole number: numbers lose their fraction, texts and bytes are read as integer
literals without the blanks around them.  Bytes that are no literal are cut to the length that is shown
before they are quoted, so what follows has no say in the choice of the quotes.

Everything else is refused.  No value is an exact decimal, a fraction, bytes that can be changed, or another
object that knows its own whole number; a caller who has one turns it into its whole number first. -/
def wholeNumber : Value → Except Failure Int
  | .bool b => .ok b.toNat
  | .int i => .ok i
  | .float x =>
      if x.isNaN then .error (.number .notANumber)
      else if x.isInfinite then .error (.number .infinite)
      else .ok x.truncate
  | .text s => read (Text.quoted s) (Text.trimBy Text.isSpacing s.toList)
  | .bytes bs =>
      let chars := bs.map fun b => if b < 0x80 then Char.ofNat b.toNat else '?'
      read (Text.quotedBytes (bs.take NumberFault.shownLength))
        (Text.trimBy Text.isOrdinaryBlank chars)
  | _ => .error .wrongKind
where
  /-- Reads an integer literal, which messages show in the given form. -/
  read (shown : String) (chars : List Char) : Except Failure Int :=
    match Literal.readInteger chars with
    | .ok i => .ok i
    | .error .malformed => .error (.number (.malformed shown))
    | .error (.tooManyDigits count) => .error (.number (.tooManyDigits count))

/-- What matches subjects against patterns. -/
structure Matcher where
  /-- How the shell is reached. -/
  executor : Executor
  /-- How many runs a concurrent batch may have in flight. -/
  bound : Nat
  deriving Repr, DecidableEq

namespace Matcher

/-- The bound on concurrent runs if none is given. -/
def defaultBound : Nat := 4

/-- The bound that a number sets: at least one. -/
def boundOf (n : Int) : Nat := (max 1 n).toNat

/-- A matcher with a bound of any kind of value. -/
def ofValue (executor : Executor) (bound : Value) : Except Failure Matcher :=
  (wholeNumber bound).map fun n => ⟨executor, boundOf n⟩

/-- The text of an argument, which must be one. -/
def requireText (argument : String) : Value → Except Failure String
  | .text s => .ok s
  | v => .error (.rejected (.notText argument v.kindName))

/-- Checks subject and pattern and makes the options canonical. -/
def request (host : Host σ) (subject pattern options : Value) :
    Except Failure Request := do
  let subjectText ← requireText "subject" subject
  let patternText ← requireText "pattern" pattern
  let options ← Options.normalize host.currentDirectory pattern options
  return ⟨subjectText, patternText, options⟩

/-- The arguments that a match would run the shell with.  Nothing is run. -/
def compile (host : Host σ) (subject pattern options : Value) :
    Except Failure (List String) :=
  (request host subject pattern options).map Command.arguments

/-- What becomes of a run: a failed launch is an outcome, any other failure is passed on. -/
def judge : Except Failure Reply → Except Failure Outcome
  | .ok reply => Outcome.classify reply
  | .error f => if f.isLaunchFailure then Outcome.classify (.failure f) else .error f

/-- Runs the shell for one request and tells the outcome. -/
def evaluate (m : Matcher) (host : Host σ) (r : Request) : Action σ Outcome := do
  Action.requirePosix host
  let went ← (m.executor.run host (Command.arguments r) (r.options.get .workingDirectory)).attempt
  Action.ofExcept (judge went)

/-- Applies the error policy of a request to an outcome.  An error that counts as no match goes to the
log. -/
def finish (r : Request) (outcome : Outcome) : Action σ Bool := do
  let strict := r.options.has .strictErrors
  if outcome.isError && !strict then
    Action.log (.suppressed outcome r.pattern)
  Action.ofExcept (outcome.resolve strict)

/-- Does the subject match the pattern? -/
def test (m : Matcher) (host : Host σ) (subject pattern options : Value) :
    Action σ Bool := do
  let r ← Action.ofExcept (request host subject pattern options)
  let outcome ← m.evaluate host r
  finish r outcome

/-- The items of a list, of a lone text, or of any other value that can be gone through.

Everything else is refused.  No value is a set, a view, a generator, or another object that can be gone
through; a caller who has one turns it into the list of its members first. -/
def itemsOf : Value → Except Failure (List Value)
  | .text s => .ok [.text s]
  | .null => .error (.rejected .noItems)
  | v =>
      match v.members? with
      | some members => .ok members
      | none => .error .wrongKind

/-- What is checked before the first item is matched: the pattern, the host, the options, the items. -/
def prepare (host : Host σ) (items pattern options : Value) :
    Except Failure (List Value × Options) := do
  let _ ← requireText "pattern" pattern
  if host.windows then throw .unsupportedPlatform
  let options ← Options.normalize host.currentDirectory pattern options
  let items ← itemsOf items
  return (items, options)

/-- The items that match, one after another.  The first failure ends it. -/
def keep (m : Matcher) (host : Host σ) (pattern : Value) (options : Options) :
    List Value → Action σ (List Value)
  | [] => pure []
  | item :: items => do
      let matched ← m.test host item pattern options.value
      let rest ← keep m host pattern options items
      return if matched then item :: rest else rest

/-- The items that match the pattern, in their order. -/
def filter (m : Matcher) (host : Host σ) (items pattern options : Value) :
    Action σ (List Value) := do
  let (items, options) ← Action.ofExcept (prepare host items pattern options)
  m.keep host pattern options items

end Matcher

end GlobOracle
