import Compositor.Config.Bindings
import Compositor.Config.Document
import Compositor.Failure
import Compositor.Host
import Compositor.Host.Path
import Compositor.Logging.Level
import Compositor.Text.Characters

set_option autoImplicit false

/-!
# Loading the configuration

The configuration is read from a file. A missing file means the standard configuration; every other
trouble with the file is an error.

Validation looks at the sections in the order of the schema and reports the first setting that is
wrong. A valid configuration is also put into its normal form: names in lowercase, the log file as a
path below the user's data directory unless it is absolute, and no blank startup command.

## Main definitions

* `LoggingConfig.validate` and the like — the sections.
* `Config.validate` — the normal form of a valid configuration.
* `Config.ofText` — the valid configuration that a document gives.
* `Config.load` — the configuration in a file.
* `Config.loadStandard` — the configuration in the user's own file.
-/

namespace Compositor

/-- The directory of the program's own files in a base directory. -/
def Environment.ownDirectory? (environment : Environment) (purpose : BaseDirectory) :
    Option String :=
  (environment.directory? purpose).map fun base => Path.join base "nimbus"

/-- The place of the log file. -/
def Environment.logPath (environment : Environment) :
    Option String → Except ConfigError (Option String)
  | none => .ok none
  | some path =>
    if Path.isAbsolute path then .ok (some path)
    else
      match environment.ownDirectory? .data with
      | some base => .ok (some (Path.join base path))
      | none => .error (.directoryUnavailable .data)

/-- The normal form of valid settings of the log. -/
def LoggingConfig.validate (environment : Environment) (logging : LoggingConfig) :
    Except ConfigError LoggingConfig :=
  let level := Lowercase.text logging.level
  let format := Lowercase.text logging.format
  if (LogLevel.ofName? level).isNone then .error (.invalid (.level logging.level))
  else if (LogFormat.ofName? format).isNone then .error (.invalid (.format logging.format))
  else
    match environment.logPath logging.filePath with
    | .ok filePath => .ok ⟨level, filePath, format⟩
    | .error cause => .error cause

/-- Keyboards must repeat, and not before the key is pressed. -/
def KeyboardConfig.validate (keyboard : KeyboardConfig) : Except ConfigError KeyboardConfig :=
  if keyboard.repeatRate ≤ 0 then .error (.invalid (.repeatRate keyboard.repeatRate))
  else if keyboard.repeatDelay < 0 then .error (.invalid (.repeatDelay keyboard.repeatDelay))
  else .ok keyboard

/-- The normal form of key bindings that can be resolved. -/
def BindingsConfig.validate (bindings : BindingsConfig) : Except ConfigError BindingsConfig :=
  let normal := { bindings with modifier := Lowercase.text bindings.modifier }
  match normal.resolve with
  | .ok _ => .ok normal
  | .error cause => .error (.invalid cause)

/-- The cursor must have a size and an image. -/
def CursorConfig.validate (cursor : CursorConfig) : Except ConfigError CursorConfig :=
  if cursor.size = 0 then .error (.invalid .cursorSize)
  else if Blank.isBlank cursor.defaultImage then .error (.invalid .cursorImage)
  else .ok cursor

/-- The normal form of a valid configuration. -/
def Config.validate (environment : Environment) (config : Config) : Except ConfigError Config := do
  let logging ← config.logging.validate environment
  let keyboard ← config.keyboard.validate
  let bindings ← config.bindings.validate
  let cursor ← config.cursor.validate
  let startupCommand := config.startupCommand.filter fun command => !Blank.isBlank command
  return ⟨logging, keyboard, bindings, cursor, startupCommand⟩

end Compositor

namespace Compositor.Config

/-- The valid configuration that a document gives. -/
def ofText (environment : Environment) (document : String) : Except ConfigError Config :=
  match ofDocument? document with
  | some config => config.validate environment
  | none => .error .malformed

/-- The configuration in the file at a path. -/
def load (host : Host) (path : String) : Except ConfigError Config :=
  match host.readText path with
  | .ok document => ofText host.environment document
  | .error cause =>
    if cause.kind = .notFound then standard.validate host.environment
    else .error (.unreadable path cause)

/-- The path of the user's own configuration file. -/
def standardPath (environment : Environment) : Except ConfigError String :=
  match environment.ownDirectory? .config with
  | some directory => .ok (Path.join directory "config.toml")
  | none => .error (.directoryUnavailable .config)

/-- The configuration in the user's own file. -/
def loadStandard (host : Host) : Except ConfigError Config :=
  match standardPath host.environment with
  | .ok path => load host path
  | .error cause => .error cause

end Compositor.Config
