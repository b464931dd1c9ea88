import GlobOracle.Logging
import GlobOracle.Reference
import GlobOracle.Settings
import GlobOracle.Tool

/-!
# The service

The service offers the tools, all with one matcher, and the reference of options, over a transport.  It is
put together from the settings; starting it configures the root logger first, so an unknown log level
keeps it from starting.
-/

namespace GlobOracle

/-- A tool as it is registered. -/
structure Registration where
  /-- The tool. -/
  tool : Tool
  /-- The matcher that it works with. -/
  matcher : Matcher
  deriving Repr, DecidableEq

/-- A text offered to callers. -/
structure Resource where
  /-- Where it is found. -/
  uri : String
  /-- What kind of text it is. -/
  mimeType : String
  /-- What it is about. -/
  description : String
  /-- The text. -/
  text : String
  deriving Repr, DecidableEq

/-- A way to talk to callers. -/
inductive Transport where
  /-- The standard streams. -/
  | standardStreams
  deriving Repr, DecidableEq

/-- The name of a transport. -/
def Transport.name : Transport → String
  | standardStreams => "stdio"

/-- The service, ready to be started. -/
structure Service where
  /-- Its name. -/
  name : String
  /-- The client that launches the shell. -/
  client : Client
  /-- The matcher of the tools. -/
  matcher : Matcher
  /-- The tools, in order of registration. -/
  tools : List Registration
  /-- The texts on offer. -/
  resources : List Resource
  deriving Repr, DecidableEq

namespace Service

/-- The reference of options, as it is offered. -/
def optionsResource : Resource where
  uri := "bash-match://options"
  mimeType := "text/plain"
  description := "Options accepted by bash_match and bash_match_list"
  text := Reference.text

/-- Puts the service together. -/
def ofSettings (s : Settings) : Service where
  name := "bash-match-mcp"
  client := s.client
  matcher := s.matcher
  tools := Tool.all.map fun tool => ⟨tool, s.matcher⟩
  resources := [optionsResource]

/-- Do all tools work with the matcher of the service? -/
def sharesMatcher (service : Service) : Bool :=
  service.tools.all fun registration => registration.matcher == service.matcher

/-- Starts the service on a root logger, and answers with the transports that it serves. -/
def start (s : Settings) : EStateM Failure RootLogger (List Transport) := do
  RootLogger.configure s.logLevel .null
  return [.standardStreams]

end Service

end GlobOracle
