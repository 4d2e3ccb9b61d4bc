import Compositor.Config.Schema
import Compositor.Failure
import Compositor.Fault
import Compositor.Host
import Compositor.Host.Path
import Compositor.Logging.Level
import Compositor.Text.Lowercase

set_option autoImplicit false

/-!
# Setting the log up

One sink takes the messages of the whole process; the first that is installed stays. Messages
for a file go through a writer that works only as long as it is kept, and the process keeps one
writer at a time.

## Main definitions

* `Log` — the sink of the process, and the writer that it keeps.
* `Log.installMinimal` — a sink for the time before the configuration is known.
* `Log.install` — the sink that a configuration describes.
-/

namespace Compositor

/-- The writer of a log file. -/
structure LogWriter where
  /-- Its number among the writers of the process. -/
  number : Nat
deriving DecidableEq

/-- What takes the messages. -/
structure LogSink where
  /-- How lines are written. -/
  format : LogFormat
  /-- The writer of its log file, if it has one. -/
  writer : Option LogWriter
deriving DecidableEq

/-- The log of the process. -/
structure Log where
  /-- The sink, once there is one. -/
  sink : Option LogSink
  /-- The writer that is kept. -/
  kept : Option LogWriter
  /-- How many writers there have been. -/
  writers : Nat
deriving DecidableEq

/-- What a step of setting the log up asks of the machine, the log after it, and its result. -/
structure LogOutcome where
  /-- The directory that the machine is asked to make, if it comes to that. -/
  asked : Option String
  /-- The log. -/
  log : Log
  /-- The result of the step. -/
  result : Except Fault (Except LoggingError Unit)

namespace Log

/-- The log of a process that has just begun. -/
def silent : Log := ⟨none, none, 0⟩

/-- Installs a sink unless there is one. -/
def offer (log : Log) (sink : LogSink) : Log :=
  { log with sink := log.sink.or (some sink) }

/-- Installs a sink without a file, unless there is one. -/
def installMinimal (log : Log) : Log :=
  log.offer ⟨.text, none⟩

/-- The format of lines for the name of a format, which may be unknown. -/
def lineFormat (name : String) : LogFormat :=
  (LogFormat.ofName? (Lowercase.text name)).getD .text

/-- The directory of a log file. -/
def directory (path : String) : String :=
  match Path.parent? path with
  | some directory => if directory = "" then "." else directory
  | none => "."

/-- The name of a log file, to which the day is added. -/
def fileName (path : String) : String :=
  (Path.fileName? path).getD "nimbus.log"

/-- The name of the thread that writes to the log file. -/
def workerName : String := "tracing-appender"

/-- Opens a log file in its directory and starts the thread that writes to it. -/
def openWriter (host : Host) (path : String) : Except Fault Unit :=
  match host.openLog (directory path) (fileName path) with
  | .error cause => .error (.unwritableLog cause)
  | .ok () =>
    match host.startThread workerName with
    | .error cause => .error (.unattendedLog cause)
    | .ok () => .ok ()

/-- Installs a sink and keeps its writer. If there is a sink already it stays, which is
an error unless the log is being set up again. -/
def replace (log : Log) (asked : Option String) (format : LogFormat) (writer : Option LogWriter)
    (reload : Bool) : LogOutcome :=
  { asked := asked
    log := { log.offer ⟨format, writer⟩ with kept := writer }
    result := .ok (if log.sink.isSome && !reload then .error .alreadyInstalled else .ok ()) }

/-- Installs the sink that a configuration describes. Its level is looked at first, then the
directory of its log file is made. -/
def install (log : Log) (host : Host) (config : LoggingConfig) (reload : Bool) : LogOutcome :=
  let level := Lowercase.text config.level
  if (LogLevel.ofName? level).isNone then ⟨none, log, .ok (.error (.level level))⟩
  else
    match config.filePath with
    | none => log.replace none (lineFormat config.format) none reload
    | some path =>
      match host.makeDirectories (directory path) with
      | .error cause =>
        ⟨some (directory path), log, .ok (.error (.directory (directory path) cause))⟩
      | .ok () =>
        match openWriter host path with
        | .error fault => ⟨some (directory path), log, .error fault⟩
        | .ok () =>
          { log with writers := log.writers + 1 }.replace (some (directory path))
            (lineFormat config.format) (some ⟨log.writers⟩) reload

end Log

end Compositor
