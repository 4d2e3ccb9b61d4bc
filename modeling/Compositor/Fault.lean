import Compositor.Event
import Compositor.Host.Error
import Compositor.Text.Quoted

set_option autoImplicit false

/-!
# Faults

The toolkit promises things that the compositor does not check twice. A broken promise is a fault:
it ends the program with a diagnostic and is never handled.

## Main definitions

* `Fault` — the broken promises, with their diagnostics `Fault.message`.
-/

namespace Compositor

/-- A broken promise. -/
inductive Fault where
  /-- Coordinates left the 32-bit range. -/
  | overflow (cause : Overflow)
  /-- A signal came with a payload that does not belong to it. -/
  | unexpectedPayload (signal : Signal) (event : Event)
  /-- A popup was reported that has no parent. -/
  | orphanPopup (popup : Handle)
  /-- A value cannot be put into the environment, since it has a NUL character. -/
  | unsettableVariable (name value : String)
  /-- The log file cannot be opened although its directory is there. -/
  | unwritableLog (cause : SystemError)
  /-- The thread that writes to the log file cannot be started. -/
  | unattendedLog (cause : SystemError)

/-- The diagnostic of a fault. -/
def Fault.message : Fault → String
  | overflow cause => cause.message
  | unexpectedPayload signal event =>
    "signal " ++ signal.name ++ " delivered an unexpected payload: " ++ event.describe
  | orphanPopup popup => "popup " ++ popup.text ++ " reported without a parent surface"
  | unsettableVariable name value =>
    "failed to set environment variable \x60" ++ Quoted.text name ++ "\x60 to \x60" ++
      Quoted.text value ++ "\x60: " ++ SystemError.nulInVariable.message
  | unwritableLog cause =>
    "initializing rolling file appender failed: " ++
      Structural.record "InitError"
        [("context", Quoted.text "failed to create log file"),
          ("source", cause.describe)]
  | unattendedLog cause =>
    "failed to spawn \x60tracing-appender\x60 non-blocking worker thread: " ++ cause.describe

end Compositor
