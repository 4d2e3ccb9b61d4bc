import Compositor.Config.Invalid
import Compositor.Host
import Compositor.Registry.Basic
import Compositor.Text.Quoted

set_option autoImplicit false

/-!
# Failures

What can keep the compositor from starting, each with its cause, its diagnostic, and the diagnostic
of the cause where there is one.

## Main definitions

* `ToolkitError` — a part of the toolkit could not be brought up.
* `ConfigError` — a configuration could not be had.
* `LoggingError` — the log could not be set up.
* `Failure` — any of these, at the level of the whole program.
-/

namespace Compositor

/-- The parts of the toolkit that can fail. -/
inductive ToolkitPart where
  /-- The listening socket. -/
  | socket
  /-- The backend. -/
  | backend
  /-- The renderer. -/
  | renderer
  /-- The buffer allocator. -/
  | allocator
deriving DecidableEq

/-- The name of a part. -/
def ToolkitPart.name : ToolkitPart → String
  | socket => "socket"
  | backend => "backend"
  | renderer => "renderer"
  | allocator => "allocator"

/-- A failure that the toolkit reports. -/
structure ToolkitError where
  /-- The part that failed. -/
  part : ToolkitPart
  /-- What the toolkit says. -/
  text : String
deriving DecidableEq

/-- The diagnostic of a toolkit failure. -/
def ToolkitError.message (error : ToolkitError) : String :=
  error.part.name ++ ": " ++ error.text

/-- The steps of starting the display. -/
inductive StartupStage where
  /-- The socket is opened. -/
  | creatingSocket
  /-- The backend is started. -/
  | startingBackend
deriving DecidableEq

/-- What is done at a stage. -/
def StartupStage.activity : StartupStage → String
  | creatingSocket => "creating the display socket"
  | startingBackend => "starting the backend"

/-- Why a configuration could not be had. -/
inductive ConfigError where
  /-- The file could not be read. -/
  | unreadable (path : String) (cause : SystemError)
  /-- The document is malformed or does not fit the schema. -/
  | malformed
  /-- A setting is refused. -/
  | invalid (cause : Invalid)
  /-- A base directory is not known. -/
  | directoryUnavailable (directory : BaseDirectory)
deriving DecidableEq

/-- The diagnostic of a configuration error. That of a malformed document says no more than this
beginning. -/
def ConfigError.message : ConfigError → String
  | unreadable path _ => "Failed to read configuration file from " ++ Quoted.text path
  | malformed => "Failed to parse configuration file"
  | invalid cause => "Configuration validation failed: " ++ cause.message
  | directoryUnavailable directory =>
    "Could not determine base directory for " ++ directory.title

/-- The diagnostic of the cause. -/
def ConfigError.cause? : ConfigError → Option String
  | unreadable _ cause => some cause.message
  | _ => none

/-- Why the log could not be set up. -/
inductive LoggingError where
  /-- There is no such level; the name is given in lowercase. -/
  | level (name : String)
  /-- The directory of the log file could not be made. -/
  | directory (path : String) (cause : SystemError)
  /-- Another log is already in use. -/
  | alreadyInstalled
deriving DecidableEq

/-- The diagnostic of a logging error. -/
def LoggingError.message (error : LoggingError) : String :=
  "Failed to initialize logging: " ++
    match error with
    | level name => "Invalid log level in config: " ++ name
    | directory path cause =>
      "Cannot create log directory " ++ path ++ ": " ++ cause.message
    | alreadyInstalled =>
      "Failed to set global tracing subscriber. Was it already initialized? " ++
        "Error: a global default trace dispatcher has already been set"

/-- Why the compositor cannot go on. -/
inductive Failure where
  /-- The configuration could not be had. -/
  | config (cause : ConfigError)
  /-- The log could not be set up. -/
  | logging (cause : LoggingError)
  /-- The display could not be started. -/
  | startup (stage : StartupStage) (cause : ToolkitError)
  /-- A global object could not be listened to. -/
  | registry (cause : Refusal)
  /-- The startup command could not be started. -/
  | launch (command : String) (cause : SystemError)
  /-- The machine refused something else. -/
  | io (cause : SystemError)
deriving DecidableEq

namespace Failure

/-- The diagnostic of a failure. -/
def message : Failure → String
  | config cause => "Configuration Error: " ++ cause.message
  | logging cause => "Logging Error: " ++ cause.message
  | startup stage cause =>
    "Startup failed while " ++ stage.activity ++ ": " ++ cause.message
  | registry cause => "Registry Error: " ++ cause.message
  | launch command cause =>
    "Failed to launch startup command \x60" ++ command ++ "\x60: " ++ cause.message
  | io cause => "I/O Error: " ++ cause.message

/-- The diagnostic of the cause. -/
def causeMessage : Failure → String
  | config cause => cause.message
  | logging cause => cause.message
  | startup _ cause => cause.message
  | registry cause => cause.message
  | launch _ cause => cause.message
  | io cause => cause.message

end Failure

end Compositor
