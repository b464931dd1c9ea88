import GlobOracle.Value

/-!
# Failures of the operating system

A failure that the operating system reports has a kind and arguments: nothing, one free value, or an
error number with its text and perhaps a file name.  `OsError.ofCode` finds the kind that belongs to an
error number, and `OsError.message` is the text that is shown.
-/

namespace GlobOracle

/-- The kinds of failure that are told apart by name. -/
inductive OsErrorKind where
  /-- Any failure without a kind of its own. -/
  | general
  /-- The operation is not permitted. -/
  | permission
  /-- There is no such file or directory. -/
  | fileNotFound
  /-- There is no such process. -/
  | processLookup
  /-- A signal interrupted the operation. -/
  | interrupted
  /-- There is no such child process. -/
  | childProcess
  /-- The operation would have to wait. -/
  | blocking
  /-- The file exists already. -/
  | fileExists
  /-- A directory was expected. -/
  | notADirectory
  /-- A directory was not expected. -/
  | isADirectory
  /-- Nobody reads the pipe. -/
  | brokenPipe
  /-- The operating system gave up waiting. -/
  | timeout
  /-- A failure of a connection. -/
  | connection
  /-- The other side refused the connection. -/
  | connectionRefused
  /-- The other side reset the connection. -/
  | connectionReset
  /-- The connection was aborted on this side. -/
  | connectionAborted
  deriving Repr, DecidableEq

/-- The kind of failure that an error number stands for. -/
def OsErrorKind.ofCode : Int → OsErrorKind
  | 1 | 13 => permission
  | 2 => fileNotFound
  | 3 => processLookup
  | 4 => interrupted
  | 10 => childProcess
  | 11 | 114 | 115 => blocking
  | 17 => fileExists
  | 20 => notADirectory
  | 21 => isADirectory
  | 32 | 108 => brokenPipe
  | 103 => connectionAborted
  | 104 => connectionReset
  | 110 => timeout
  | 111 => connectionRefused
  | _ => general

/-- A failure that the operating system reports. -/
structure OsError where
  /-- What kind of failure it is. -/
  kind : OsErrorKind
  /-- The error number, its text and a file name, or less. -/
  arguments : List Value
  deriving Repr, BEq

namespace OsError

/-- A failure of general name, which takes the kind of its error number if it has a number and a text. -/
def ofArguments (arguments : List Value) : OsError :=
  match arguments with
  | .int code :: _ :: rest => ⟨if rest.length ≤ 3 then .ofCode code else .general, arguments⟩
  | .bool code :: _ :: rest => ⟨if rest.length ≤ 3 then .ofCode code.toNat else .general, arguments⟩
  | _ => ⟨.general, arguments⟩

/-- What can be wrong with a count of characters. -/
inductive CountFault where
  /-- It is a number, but not a whole one. -/
  | notWhole
  /-- It does not fit into 64 bits. -/
  | tooLarge
  deriving Repr, DecidableEq

/-- What is wrong with a number taken for a count of characters; other values are no counts. -/
def CountFault.find? : Value → Option CountFault
  | .float _ => some notWhole
  | .int i => if -0x8000000000000000 ≤ i ∧ i < 0x8000000000000000 then none else some tooLarge
  | _ => none

/-- What is wrong with the count of characters that an operation tells that would have to wait: a number in
the third argument is one. -/
def countFault? (e : OsError) : Option CountFault :=
  match e.kind, e.arguments with
  | .blocking, _ :: _ :: third :: rest => if rest.length ≤ 2 then CountFault.find? third else none
  | _, _ => none

/-- The file name in the third argument.  An operation that would have to wait has a count of characters
there instead, if it is a number. -/
def fileName? : OsErrorKind → Value → Option Value
  | _, .null => none
  | .blocking, .int _ | .blocking, .bool _ | .blocking, .float _ => none
  | _, file => some file

/-- The text that is shown: `[Errno number] text`, with the quoted file name behind it if there is one
(and a second one from the fifth argument).  Fewer than two arguments, or more than five, are shown as
they are. -/
def message (e : OsError) : String :=
  match e.arguments with
  | code :: text :: rest =>
      let numbered := "[Errno " ++ code.display ++ "] " ++ text.display
      match rest with
      | [] => numbered
      | [third] | [third, _] | [third, _, .null] =>
          match fileName? e.kind third with
          | some file => numbered ++ ": " ++ file.quoted
          | none => numbered
      | [third, _, second] =>
          match fileName? e.kind third with
          | some file => numbered ++ ": " ++ file.quoted ++ " -> " ++ second.quoted
          | none => numbered
      | _ => Value.displayAll e.arguments
  | arguments => Value.displayAll arguments

/-- The arguments as they are shown inside other values: of a failure with a file name, the error number and
its text. -/
def shownArguments (e : OsError) : List Value :=
  match e.arguments with
  | code :: text :: third :: rest =>
      if rest.length ≤ 2 && (fileName? e.kind third).isSome then [code, text] else e.arguments
  | arguments => arguments

end OsError

end GlobOracle
