import GlobOracle.Host

/-!
# Launching the shell

`ShellPath.resolve` settles the path of the shell once for all: the first well-known path at which
there is a file, or the bare name if there is none.  A `Client` launches the shell under a path of its
own or under the settled one, with a limit on its time if it has one, and tells failures of a launch as
such.
-/

namespace GlobOracle

variable {σ : Type}

namespace ShellPath

/-- The paths at which the shell is looked for. -/
def candidates : List String := ["/usr/local/bin/bash", "/bin/bash"]

/-- The name that is left to the host to find. -/
def fallback : String := "bash"

/-- The first of some paths at which there is a file, or the bare name. -/
def search (host : Host σ) : List String → Action σ String
  | [] => pure fallback
  | path :: paths => do
      if ← Action.probe host path then return path
      search host paths

/-- The path of the shell, which is searched for only if it is not settled. -/
def resolve (host : Host σ) : Action σ String := do
  match (← get).shellPath with
  | some path => return path
  | none =>
      let path ← search host candidates
      modify fun p => { p with shellPath := some path }
      Action.log (.usingShell path)
      return path

/-- Forgets the path of the shell. -/
def forget : Action σ Unit := modify fun p => { p with shellPath := none }

end ShellPath

/-- A limit on the time of a run, in seconds.  It is kept as the caller gave it, since messages show
it. -/
inductive Limit where
  /-- One second, given as a truth value. -/
  | flag
  /-- Whole seconds. -/
  | whole (seconds : Int)
  /-- Seconds of double precision. -/
  | real (seconds : Double)
  deriving Repr, DecidableEq

namespace Limit

/-- The limit as a value. -/
def value : Limit → Value
  | flag => .bool true
  | whole seconds => .int seconds
  | real seconds => .float seconds

/-- The limit that a value sets.  A number that is not positive sets none, and of the values that are no
number only those that count as false are accepted. -/
def ofValue : Value → Except Failure (Option Limit)
  | .bool b => .ok (if b then some flag else none)
  | .int seconds => .ok (if 0 < seconds then some (whole seconds) else none)
  | .float seconds => .ok (if seconds.isPositive then some (real seconds) else none)
  | v => if v.truthy then .error .wrongKind else .ok none

end Limit

/-- What launches the shell. -/
structure Client where
  /-- The program to launch, if it is not to be looked for. -/
  path : Option Executable
  /-- The limit on the time of a run. -/
  limit : Option Limit
  deriving Repr, DecidableEq

namespace Client

/-- The program that a configured path names.  Whatever counts as false, or is blank, names none. -/
def configuredPath : Value → Except Failure (Option Executable)
  | .text name => .ok (Executable.ofText? name)
  | .bytes name => .ok (Executable.ofBytes? name)
  | v => if v.truthy then .error .noOperation else .ok none

/-- A client with a configured path and limit. -/
def ofValues (path limit : Value) : Except Failure Client := do
  let path ← configuredPath path
  let limit ← Limit.ofValue limit
  return ⟨path, limit⟩

/-- The program that the client launches. -/
def program (client : Client) (host : Host σ) : Action σ Executable :=
  match client.path with
  | some path => pure path
  | none => do return .text (← ShellPath.resolve host)

/-- A limit as messages show it. -/
def limitText (limit : Option Limit) : String :=
  ((limit.map Limit.value).getD .null).display

/-- How a failure of a launch is told.  A command that ran out of time and a failure of the operating
system become failures of the launch; all others stay as they are. -/
def tell (client : Client) (program : Executable) (f : Failure) : Failure :=
  match f with
  | .child (.timedOut _ _) =>
      .launch (.outOfTime (limitText client.limit)) (some program) (some f)
  | .os e => .launch (.notStarted program.value.display e.message) (some program) (some f)
  | _ => f

/-- Whatever counts as false is no bytes. -/
def orNoBytes (stream : Value) : Value := if stream.truthy then stream else .bytes []

/-- Runs the shell with some arguments, in a working directory.  The program is settled before the
arguments are looked at. -/
def run (client : Client) (host : Host σ) (arguments directory : Value) : Action σ Reply := do
  let program ← client.program host
  let arguments ←
    match arguments.members? with
    | some members => pure members
    | none => throw .wrongKind
  Action.log (.running program arguments directory)
  match ← (Action.call host
      (.launch program arguments directory (client.limit.map Limit.value))).attempt with
  | .error f => throw (client.tell program f)
  | .ok (.failure _) => throw .noOperation
  | .ok (.streams output errors) => return .streams (orNoBytes output) (orNoBytes errors)

end Client

end GlobOracle
