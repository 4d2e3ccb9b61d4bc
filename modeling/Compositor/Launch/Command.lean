import Compositor.Failure
import Compositor.Text.Characters

set_option autoImplicit false

/-!
# Starting a command

The startup command is handed to the shell, with the name of the listening socket in its
environment, and a thread of its own waits for its end. Neither text may have a NUL character. Apart
from that it is for the machine to say whether the shell and the thread can be started.

## Main definitions

* `Launch.displayVariable` — the variable by which clients find the display.
* `Launch.run` — starts a command.
-/

namespace Compositor.Launch

/-- The environment variable by which clients find the display. -/
def displayVariable : String := "WAYLAND_DISPLAY"

/-- The name of the thread that waits for the end of the startup command. -/
def reaperName : String := "nimbus-startup-reaper"

/-- Starts a command with the name of the socket in its environment; the number of its process. The
command runs also when nobody can wait for its end. -/
def run (host : Host) (command socket : String) : Except Failure Nat :=
  if hasNul command || hasNul socket then .error (.launch command .nulInCommand)
  else
    match host.startShell command socket with
    | .error cause => .error (.launch command cause)
    | .ok process =>
      match host.startThread reaperName with
      | .error cause => .error (.io cause)
      | .ok () => .ok process

end Compositor.Launch
