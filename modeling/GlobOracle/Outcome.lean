import GlobOracle.Options.Basic
import GlobOracle.Text.Utf8

/-!
# From what the shell printed to an answer

A run of the shell replies with two streams, or with a failure in their place.  `Outcome.classify` tells
four outcomes apart: whatever is printed to the error stream is a complaint, and otherwise anything
printed means a match.  `Outcome.resolve` applies the error policy: reported errors become failures,
others count as no match.
-/

namespace GlobOracle

/-- What a run of the shell replies. -/
inductive Reply where
  /-- What it printed, on the ordinary stream and on the error stream. -/
  | streams (output errors : Value)
  /-- A failure handed back in place of streams. -/
  | failure (f : Failure)
  deriving Repr, BEq

/-- The text of a stream without the blanks around it.  Whatever counts as false is empty; bytes are read
as text. -/
def streamText : Value → Except Failure String
  | .text s => .ok (Text.trimmed s)
  | .bytes bs => .ok (String.ofList (Text.trim (Text.Utf8.decode bs)))
  | v => if v.truthy then .error .noOperation else .ok ""

/-- What came of matching one subject, before the error policy. -/
inductive Outcome where
  /-- The subject matches. -/
  | matched
  /-- The subject does not match. -/
  | notMatched
  /-- The shell ran and complained. -/
  | evaluationError (complaint : String)
  /-- The shell did not run; the failure behind it, if known. -/
  | spawnError (message : String) (cause : Option Failure)
  deriving Repr, BEq

namespace Outcome

/-- The name of an outcome. -/
def name : Outcome → String
  | matched => "matched"
  | notMatched => "not_matched"
  | evaluationError _ => "evaluation_error"
  | spawnError _ _ => "spawn_error"

/-- The words of an outcome; a match and its absence have none. -/
def message : Outcome → String
  | matched => ""
  | notMatched => ""
  | evaluationError complaint => complaint
  | spawnError message _ => message

/-- The failure behind an outcome. -/
def cause? : Outcome → Option Failure
  | spawnError _ cause => cause
  | _ => none

/-- Is the outcome an error? -/
def isError : Outcome → Bool
  | evaluationError _ | spawnError _ _ => true
  | _ => false

/-- The outcome with a given name.  A name that is no outcome's is no match. -/
def ofName (name message : String) (cause : Option Failure) : Outcome :=
  if name == "matched" then matched
  else if name == "evaluation_error" then evaluationError message
  else if name == "spawn_error" then spawnError message cause
  else notMatched

/-- Tells what a reply means.  The error stream is read first. -/
def classify : Reply → Except Failure Outcome
  | .failure f => .ok (spawnError f.message (some f))
  | .streams output errors => do
      let complaint ← streamText errors
      if !complaint.isEmpty then
        return evaluationError complaint
      let printed ← streamText output
      return if printed.isEmpty then notMatched else matched

/-- The failure that reports a launch that went wrong: the failure behind it if that tells of a launch
itself, and otherwise one that has it as its cause. -/
def launchFailure (message : String) : Option Failure → Failure
  | some (.launch fault program cause) => .launch fault program cause
  | cause => .launch (.notRun message) none cause

/-- Applies the error policy: strict reports errors, and otherwise an error counts as no match. -/
def resolve (strict : Bool) : Outcome → Except Failure Bool
  | matched => .ok true
  | notMatched => .ok false
  | evaluationError complaint => if strict then .error (.evaluation (.text complaint)) else .ok false
  | spawnError message cause => if strict then .error (launchFailure message cause) else .ok false

/-- Applies the error policy of a value, which must be a record if the outcome is an error. -/
def resolveUnder (options : Value) (outcome : Outcome) : Except Failure Bool :=
  if outcome.isError then do
    let o ← Options.ofRecord options
    outcome.resolve (o.has .strictErrors)
  else outcome.resolve false

/-- What a reply means under the error policy of a value. -/
def interpret (reply : Reply) (options : Value) : Except Failure Bool := do
  (← classify reply).resolveUnder options

end Outcome

end GlobOracle
