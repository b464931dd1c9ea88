import GlobOracle.Executable
import GlobOracle.Failure.Os
import GlobOracle.Failure.Child
import GlobOracle.Number.Literal

/-!
# What can go wrong

Every failure is told by its cause; the words are made up in one place, `Failure.message`.  Rejected
input, a host without a POSIX shell, complaints of the shell and failed launches are the program's own
failures.  Failures of the operating system, of a child process and of foreign code reach it from
outside, and the misuse of a value has no words at all.

`Failure.isLaunchFailure` singles out those that mean that the shell did not run.
-/

namespace GlobOracle

/-- Why input from a caller is rejected. -/
inductive Rejection where
  /-- An argument is no text. -/
  | notText (argument kind : String)
  /-- No option has this name. -/
  | unknownOption (name : String)
  /-- The options are neither a record nor a mapping. -/
  | notOptions (kind : String)
  /-- The options of a tool call are no mapping. -/
  | notAnObject
  /-- There are no items. -/
  | noItems
  /-- A rejection stated by foreign code. -/
  | stated (arguments : List Value)
  deriving Repr, BEq

/-- The words of a rejection. -/
def Rejection.message : Rejection → String
  | notText argument kind => "expected " ++ argument ++ " to be a string, got " ++ kind
  | unknownOption name => "Unknown match option: " ++ Text.quoted name
  | notOptions kind => "Expected match options, got " ++ kind
  | notAnObject => "options must be an object"
  | noItems => "expected a string or a list of strings"
  | stated arguments => Value.displayAll arguments

/-- Why a value is no whole number. -/
inductive NumberFault where
  /-- A text or bytes, shown in quotes, are no integer literal. -/
  | malformed (quoted : String)
  /-- An integer literal has too many digits. -/
  | tooManyDigits (count : Nat)
  /-- The value is not a number at all. -/
  | notANumber
  /-- The value is infinite. -/
  | infinite
  /-- The value does not fit into 64 bits. -/
  | tooLarge
  deriving Repr, DecidableEq

/-- How much of a malformed literal is shown: so many of its bytes, and so many characters of its quoted
form. -/
def NumberFault.shownLength : Nat := 200

/-- The words for a value that is no whole number. -/
def NumberFault.message : NumberFault → String
  | malformed quoted =>
      "invalid literal for int() with base 10: " ++ String.ofList (quoted.toList.take shownLength)
  | tooManyDigits count =>
      "Exceeds the limit (" ++ toString Literal.maxDigits ++
        " digits) for integer string conversion: value has " ++ toString count ++
        " digits; use sys.set_int_max_str_digits() to increase the limit"
  | notANumber => "cannot convert float NaN to integer"
  | infinite => "cannot convert float infinity to integer"
  | tooLarge => "cannot fit 'int' into an index-sized integer"

/-- Why a launch of the shell failed. -/
inductive LaunchFault where
  /-- The shell was still running when its time was over; the limit is shown. -/
  | outOfTime (limit : String)
  /-- The operating system did not start the program; both are shown. -/
  | notStarted (program reason : String)
  /-- Something else kept the shell from running. -/
  | notRun (reason : String)
  /-- A fault stated by foreign code. -/
  | stated (arguments : List Value)
  deriving Repr, BEq

/-- The words of a failed launch. -/
def LaunchFault.message : LaunchFault → String
  | outOfTime limit => "bash did not finish within " ++ limit ++ " seconds"
  | notStarted program reason => "Failed to launch " ++ program ++ ": " ++ reason
  | notRun reason => "Failed to run bash: " ++ reason
  | stated arguments => Value.displayAll arguments

/-- What can go wrong. -/
inductive Failure where
  /-- Input from a caller is rejected. -/
  | rejected (why : Rejection)
  /-- The host has no POSIX shell. -/
  | unsupportedPlatform
  /-- The shell ran and complained: in words, or by another value if foreign code says so. -/
  | evaluation (complaint : Value)
  /-- The shell did not run or did not finish.  The program is known if it was about to be started, and
  so is the cause, if another failure lies behind. -/
  | launch (fault : LaunchFault) (program : Option Executable) (cause : Option Failure)
  /-- The operating system reports a failure. -/
  | os (e : OsError)
  /-- A child process failed. -/
  | child (e : ChildError)
  /-- A value is no whole number. -/
  | number (fault : NumberFault)
  /-- A log level has no known name. -/
  | unknownLevel (name : String)
  /-- An operand has the wrong kind. -/
  | wrongKind
  /-- A value lacks the operation asked of it. -/
  | noOperation
  /-- A key is missing, says foreign code; the key is the only argument. -/
  | missingKey (arguments : List Value)
  /-- A failure of foreign code that is known by its name.  `Host` says which ones no shell fails with. -/
  | foreign (name : String) (arguments : List Value)
  deriving Repr, BEq

namespace Failure

/-- The words of a failure; the misuse of a value has none. -/
def message : Failure → String
  | rejected why => why.message
  | unsupportedPlatform => "bash matching does not work on Windows"
  | evaluation complaint => complaint.display
  | launch fault _ _ => fault.message
  | os e => e.message
  | child e => e.message
  | number fault => fault.message
  | unknownLevel name => "Unknown level: " ++ Text.quoted name
  | wrongKind => ""
  | noOperation => ""
  | missingKey [key] => key.quoted
  | missingKey arguments => Value.displayAll arguments
  | foreign _ arguments => Value.displayAll arguments

/-- Does the failure mean that the shell did not run?  Those of the operating system, of the child process
and of the launch itself do. -/
def isLaunchFailure : Failure → Bool
  | os _ | child _ | launch _ _ _ => true
  | _ => false

/-- Is the failure one of a launch, told as such? -/
def isLaunch : Failure → Bool
  | launch _ _ _ => true
  | _ => false

/-! ## Failures from outside

Not everything that is said about a failure makes one.  What does not, is a failure itself. -/

/-- The failure that the operating system reports, if its count of characters is none or a right one. -/
def system (e : OsError) : Except Failure Failure :=
  match e.countFault? with
  | none => .ok (os e)
  | some .notWhole => .error wrongKind
  | some .tooLarge => .error (number .tooLarge)

/-- The failure of a command that ended with a status, which must be a number. -/
def ended (status command : Value) : Except Failure Failure :=
  match status with
  | .bool b => .ok (child (.ended (.ofStatus b.toNat) command))
  | .int i => .ok (child (.ended (.ofStatus i) command))
  | .float x =>
      if x.isNaN then .error (number .notANumber)
      else if x.isInfinite then .error (number .infinite)
      else .ok (child (.ended (.ofFraction x) command))
  | _ => .error wrongKind

end Failure

end GlobOracle
