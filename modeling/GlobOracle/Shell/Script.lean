import GlobOracle.Host
import GlobOracle.Text.Substring

/-!
# A shell that answers from a script

For trying a matcher out without a shell installed: a `Script` lists answers to be given one after
another, then rules that look for a text in the last argument of a call, and an answer for everything
else.
-/

namespace GlobOracle

/-- An answer of the shell: a reply, or a failure to run. -/
abbrev Answer := Except Failure Reply

/-- The answers of a scripted shell. -/
structure Script where
  /-- Answers given first, one to each call. -/
  queue : List Answer
  /-- Answers to calls whose last argument holds a text; the first rule that fits answers. -/
  rules : List (String × Answer)
  /-- The answer to all other calls. -/
  otherwise : Answer

namespace Script

/-- A shell that prints nothing. -/
def silent : Script := ⟨[], [], .ok (.streams (.bytes []) (.bytes []))⟩

/-- The text in the last argument of a call.  The program counts as the first argument of a launch. -/
def lastArgument? : Call → Option String
  | .direct arguments _ => arguments.getLast?
  | .launch program arguments _ _ =>
      match (program.value :: arguments).getLast? with
      | some (.text s) => some s
      | _ => none

/-- The answer of the rules. -/
def byRule (script : Script) (call : Call) : Answer :=
  match lastArgument? call with
  | some text =>
      match script.rules.find? fun rule => Text.contains text rule.1 with
      | some rule => rule.2
      | none => script.otherwise
  | none => script.otherwise

/-- Answers a call from the script, and drops an answer of the queue once it is given. -/
def shell (call : Call) (script : Script) : Answer × Script :=
  match script.queue with
  | answer :: queue => (answer, { script with queue := queue })
  | [] => (script.byRule call, script)

end Script

end GlobOracle
