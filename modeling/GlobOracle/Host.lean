import GlobOracle.Outcome

/-!
# The host, and what the program remembers of it

The program asks its host four things: whether it is Windows, what the current directory is, whether a
file exists, and what a run of the shell replies.  `Host` holds the answers, `Memory` what changes as
the program runs: the path of the shell once it is known, everything that happened so far, and the state
of the shell itself.  An `Action` reads the former and changes the latter; what it did before it failed
stays done.
-/

namespace GlobOracle

/-- A run of the shell as it is asked of the host. -/
inductive Call where
  /-- Arguments and working directory, handed over as they are. -/
  | direct (arguments : List String) (directory : Value)
  /-- A program to launch with arguments, working directory and, if it is limited, its time. -/
  | launch (program : Executable) (arguments : List Value) (directory : Value)
      (limit : Option Value)
  deriving Repr, BEq

/-- What a host answers.  The shell answers in a state `σ` of its own.

Whoever runs the shell hands its failures on as they are.  A worker of a batch cannot do so with failures
that its own machinery takes for signals: the end of an iteration (`StopIteration`), and a result that is
cancelled or asked for at the wrong time (`CancelledError`, `InvalidStateError`).  A shell does not fail in
these ways. -/
structure Host (σ : Type) where
  /-- Whether the host is Windows. -/
  windows : Bool
  /-- The current directory. -/
  currentDirectory : Except OsError String
  /-- Whether there is a file at a path. -/
  fileExists : String → Bool
  /-- What a run of the shell replies, or how it fails, and the state it leaves. -/
  shell : Call → σ → Except Failure Reply × σ

/-- A platform is Windows if either of its two names says so. -/
def isWindows (platform family : String) : Bool := platform == "win32" || family == "nt"

/-- How important a message is. -/
inductive Severity where
  /-- For tracing a run. -/
  | debug
  /-- Something a reader should know. -/
  | warning
  deriving Repr, DecidableEq

/-- A message to the log. -/
inductive Notice where
  /-- The path of the shell has been settled. -/
  | usingShell (path : String)
  /-- The shell is about to be launched. -/
  | running (program : Executable) (arguments : List Value) (directory : Value)
  /-- An error counts as no match. -/
  | suppressed (outcome : Outcome) (pattern : String)
  deriving Repr, BEq

namespace Notice

/-- How important a notice is. -/
def severity : Notice → Severity
  | suppressed _ _ => .warning
  | _ => .debug

/-- The part of the program that a notice comes from. -/
def source : Notice → String
  | suppressed _ _ => "matching.matcher"
  | _ => "clients.bash_client"

/-- The words of a notice. -/
def message : Notice → String
  | usingShell path => "Using bash at " ++ path
  | running program arguments directory =>
      "Running " ++ (Value.list (program.value :: arguments)).quoted ++ " (cwd=" ++
        directory.display ++ ")"
  | suppressed outcome pattern =>
      "Treating " ++ outcome.name ++ " for pattern " ++ Text.quoted pattern ++ " as no match: " ++
        outcome.message

end Notice

/-- Something that happened. -/
inductive Event where
  /-- The host was asked whether there is a file at a path. -/
  | probed (path : String)
  /-- A run of the shell was asked of the host. -/
  | called (call : Call)
  /-- A message went to the log. -/
  | logged (notice : Notice)
  deriving Repr, BEq

/-- What the program remembers. -/
structure Memory (σ : Type) where
  /-- The path of the shell, once it is settled. -/
  shellPath : Option String
  /-- What happened so far, in order. -/
  events : List Event
  /-- The state of the shell. -/
  shell : σ

namespace Memory

variable {σ : Type}

/-- The memory of a program that has done nothing yet. -/
def fresh (shell : σ) : Memory σ := ⟨none, [], shell⟩

/-- The memory after one more event. -/
def record (memory : Memory σ) (e : Event) : Memory σ := { memory with events := memory.events ++ [e] }

/-- The runs of the shell that were asked for. -/
def calls (memory : Memory σ) : List Call :=
  memory.events.filterMap fun
    | .called call => some call
    | _ => none

/-- The paths that were asked about. -/
def probes (memory : Memory σ) : List String :=
  memory.events.filterMap fun
    | .probed path => some path
    | _ => none

/-- The messages that went to the log. -/
def notices (memory : Memory σ) : List Notice :=
  memory.events.filterMap fun
    | .logged notice => some notice
    | _ => none

end Memory

/-- Something that the program does: it changes what is remembered, and gives an answer or fails. -/
abbrev Action (σ α : Type) := EStateM Failure (Memory σ) α

namespace Action

variable {σ α : Type}

/-- An answer that needs nothing done. -/
def ofExcept (answer : Except Failure α) : Action σ α :=
  match answer with
  | .ok a => pure a
  | .error f => throw f

/-- Does something and answers with how it went. -/
def attempt (action : Action σ α) : Action σ (Except Failure α) := fun p =>
  match action p with
  | .ok a p => .ok (.ok a) p
  | .error f p => .ok (.error f) p

/-- Writes a message to the log. -/
def log (notice : Notice) : Action σ Unit := modify (·.record (.logged notice))

/-- Asks the host whether there is a file at a path. -/
def probe (host : Host σ) (path : String) : Action σ Bool := do
  modify (·.record (.probed path))
  return host.fileExists path

/-- Asks the host for a run of the shell. -/
def call (host : Host σ) (c : Call) : Action σ Reply := do
  modify (·.record (.called c))
  let p ← get
  let (answer, shell) := host.shell c p.shell
  set { p with shell := shell }
  ofExcept answer

/-- Fails on a host without a POSIX shell. -/
def requirePosix (host : Host σ) : Action σ Unit :=
  if host.windows then throw .unsupportedPlatform else pure ()

end Action

end GlobOracle
