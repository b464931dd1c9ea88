import GlobOracle.Value
import GlobOracle.Failure.Signal

/-!
# Failures of a child process

What can be wrong with a command that was launched: it ran out of time, it came to an end that is no
success, or something else that is only told in words.  An `Ending` is read off the status of the command:
`Ending.ofStatus` for a whole number, `Ending.ofFraction` for one with a fraction.
-/

namespace GlobOracle

/-- How a command came to its end. -/
inductive Ending where
  /-- It returned a status. -/
  | exited (status : Nat)
  /-- A signal with a name ended it. -/
  | signalled (name : String) (number : Nat)
  /-- A signal without a name ended it. -/
  | unnamedSignal (number : Nat)
  deriving Repr, DecidableEq

namespace Ending

/-- The ending that a status stands for: a negative one is the number of a signal. -/
def ofStatus (status : Int) : Ending :=
  if status < 0 then
    match signalName? status.natAbs with
    | some name => signalled name status.natAbs
    | none => unnamedSignal status.natAbs
  else exited status.toNat

/-- The ending that a finite number with or without a fraction stands for.  No signal has a number with a
fraction, and the fraction is not shown. -/
def ofFraction (status : Double) : Ending :=
  if status.isWhole then ofStatus status.truncate
  else if status.isPositive then exited status.truncate.natAbs
  else unnamedSignal status.truncate.natAbs

/-- The words of an ending. -/
def text : Ending → String
  | exited status => "returned non-zero exit status " ++ toString status ++ "."
  | signalled name number => "died with <Signals." ++ name ++ ": " ++ toString number ++ ">."
  | unnamedSignal number => "died with unknown signal " ++ toString number ++ "."

end Ending

/-- A failure of a command that was launched as a child process. -/
inductive ChildError where
  /-- A failure told by its arguments alone. -/
  | general (arguments : List Value)
  /-- The command was still running when its time was over. -/
  | timedOut (command limit : Value)
  /-- The command came to an end that is no success. -/
  | ended (ending : Ending) (command : Value)
  deriving Repr, BEq

/-- The text that is shown. -/
def ChildError.message : ChildError → String
  | general arguments => Value.displayAll arguments
  | timedOut command limit =>
      "Command '" ++ command.display ++ "' timed out after " ++ limit.display ++ " seconds"
  | ended ending command => "Command '" ++ command.display ++ "' " ++ ending.text

end GlobOracle
