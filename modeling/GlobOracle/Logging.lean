import GlobOracle.Failure

/-!
# The root logger

The root logger writes records to the error stream once a handler is attached.  `RootLogger.configure`
attaches one and sets the level, and leaves a logger alone that has a handler already.  The handler is
attached before the level is looked at, so it stays if the level is refused.
-/

namespace GlobOracle

/-- The root logger. -/
structure RootLogger where
  /-- How many handlers are attached. -/
  handlers : Nat
  /-- The level below which nothing is written. -/
  level : Int
  deriving Repr, DecidableEq

/-- A record to be logged. -/
structure LogRecord where
  /-- How important it is. -/
  level : Int
  /-- The name of the logger that it comes from. -/
  logger : String
  /-- Its words. -/
  message : String
  deriving Repr, DecidableEq

namespace LogLevel

/-- The level of warnings. -/
def warning : Int := 30

/-- The level with a given name. -/
def ofName? : String → Option Int
  | "CRITICAL" | "FATAL" => some 50
  | "ERROR" => some 40
  | "WARNING" | "WARN" => some warning
  | "INFO" => some 20
  | "DEBUG" => some 10
  | "NOTSET" => some 0
  | _ => none

/-- The name of a level. -/
def name (level : Int) : String :=
  if level = 50 then "CRITICAL"
  else if level = 40 then "ERROR"
  else if level = warning then "WARNING"
  else if level = 20 then "INFO"
  else if level = 10 then "DEBUG"
  else if level = 0 then "NOTSET"
  else "Level " ++ toString level

/-- The level that a value stands for: a whole number itself, a text the level with this name. -/
def ofValue : Value → Except Failure Int
  | .int level => .ok level
  | .bool b => .ok b.toNat
  | .text s =>
      match ofName? s with
      | some level => .ok level
      | none => .error (.unknownLevel s)
  | _ => .error .wrongKind

end LogLevel

namespace RootLogger

/-- A logger without handlers, at the level of warnings. -/
def initial : RootLogger := ⟨0, LogLevel.warning⟩

/-- The level to be set: the one asked for, or else the configured one, or else that of warnings. -/
def chosenLevel (configured : String) (level : Value) : Value :=
  if level.truthy then level
  else if configured.isEmpty then .text "WARNING"
  else .text configured

/-- Attaches a handler. -/
def attach (r : RootLogger) : RootLogger := { r with handlers := r.handlers + 1 }

/-- Attaches a handler and sets the level, unless there is a handler. -/
def configure (configured : String) (level : Value) : EStateM Failure RootLogger Unit := do
  if (← get).handlers != 0 then
    return
  modify attach
  match LogLevel.ofValue (chosenLevel configured level) with
  | .ok level => modify fun r => { r with level := level }
  | .error f => throw f

/-- Does a record pass?  It must be of positive level, and not below that of the root logger. -/
def passes (r : RootLogger) (record : LogRecord) : Bool :=
  decide (0 < record.level) && decide (r.level ≤ record.level)

/-- A record as a handler writes it. -/
def line (record : LogRecord) : String :=
  LogLevel.name record.level ++ " " ++ record.logger ++ ": " ++ record.message ++ "\n"

/-- What is written for a record: a line by each handler.  Where there is none, warnings and what is more
important are written bare. -/
def written (r : RootLogger) (record : LogRecord) : String :=
  if !r.passes record then ""
  else if r.handlers = 0 then
    if LogLevel.warning ≤ record.level then record.message ++ "\n" else ""
  else String.join (List.replicate r.handlers (line record))

end RootLogger

end GlobOracle
