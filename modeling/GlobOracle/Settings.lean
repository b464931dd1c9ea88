import GlobOracle.Matcher
import GlobOracle.Text.Uppercase

/-!
# Settings from the environment

Environment variables carry the defaults of the service.  Each is read for what it should be, without the
blanks around it, and a variable that cannot be read counts as one that is not there.

The settings describe a client and a matcher.  Who has no matcher of its own gets the default one, which is
made when it is first asked for and kept from then on.
-/

namespace GlobOracle

/-- The environment: the texts of the variables that are set. -/
abbrev Environment := String → Option String

namespace Environment

/-- The words that mean yes, in lower case. -/
def yesWords : List String := ["1", "true", "yes", "y", "on"]

/-- A truth value: any text but one of the words for yes means no.  Only ASCII letters have a word's
letters in lower case, so no others need to be looked at. -/
def flag? (env : Environment) (name : String) : Option Bool :=
  (env name).map fun text =>
    yesWords.contains (String.ofList ((Text.trim text.toList).map Char.toLower))

/-- A whole number. -/
def integer? (env : Environment) (name : String) : Option Int :=
  (env name).bind fun text => Literal.integer? (Text.trim text.toList)

/-- A number of double precision. -/
def decimal? (env : Environment) (name : String) : Option Double :=
  (env name).bind fun text => Literal.decimal? (Text.trim text.toList)

/-- A text that is not blank. -/
def text? (env : Environment) (name : String) : Option String :=
  (env name).bind fun text =>
    let text := Text.trimmed text
    if text.isEmpty then none else some text

end Environment

/-- The defaults of the service. -/
structure Settings where
  /-- Whether tools report errors when a call does not say. -/
  strictErrors : Bool
  /-- The limit on the time of a run, in seconds. -/
  timeout : Double
  /-- The path of the shell. -/
  shellPath : Option String
  /-- How many runs a concurrent batch may have in flight. -/
  maxConcurrency : Int
  /-- The level below which nothing is logged. -/
  logLevel : String
  deriving Repr, DecidableEq

namespace Settings

/-- Reads the settings. -/
def ofEnvironment (env : Environment) : Settings where
  strictErrors := (env.flag? "BASH_MATCH_STRICT_ERRORS").getD false
  timeout := (env.decimal? "BASH_MATCH_TIMEOUT").getD .zero
  shellPath := env.text? "BASH_MATCH_BASH_PATH"
  maxConcurrency := (env.integer? "BASH_MATCH_MAX_CONCURRENCY").getD 4
  logLevel := Text.uppercase (Text.trimmed ((env "BASH_MATCH_LOG_LEVEL").getD "WARNING"))

/-- The client that the settings describe. -/
def client (s : Settings) : Client where
  path := s.shellPath.bind Executable.ofText?
  limit := if s.timeout.isPositive then some (.real s.timeout) else none

/-- The matcher that the settings describe. -/
def matcher (s : Settings) : Matcher := ⟨.client s.client, Matcher.boundOf s.maxConcurrency⟩

/-- The default matcher, and what is kept of it: the one that is kept, or else a new one. -/
def defaultMatcher (s : Settings) (kept : Option Matcher) : Matcher × Option Matcher :=
  match kept with
  | some m => (m, kept)
  | none => (s.matcher, some s.matcher)

/-- The matcher to work with, and what is kept of the default one: the matcher that is given, or else the
default one, which is not asked for before. -/
def matcherFor (s : Settings) (given kept : Option Matcher) : Matcher × Option Matcher :=
  match given with
  | some m => (m, kept)
  | none => s.defaultMatcher kept

end Settings

end GlobOracle
