import Compositor.Simulation.Script.Builtins.Control
import Compositor.Simulation.Script.Builtins.Surroundings
import Compositor.Simulation.Script.Builtins.Text
import Compositor.Simulation.Script.Builtins.Variables

set_option autoImplicit false

/-!
# The commands of the shell itself by their names

Some of them are special, in that a mistake in their use ends the shell.

## Main definitions

* `Script.special?` — the special commands.
* `Script.regular?` — the other commands of the shell itself.
-/

namespace Compositor.Script

/-- The special commands by their names. -/
def specialTable : List (String × Utility) :=
  [(":", Builtins.constant 0), ("break", Builtins.leaveLoops .brokenOut),
    ("continue", Builtins.leaveLoops .continued), ("exit", Builtins.exit),
    ("export", Builtins.share), ("local", Builtins.own), ("readonly", Builtins.protect),
    ("return", Builtins.leaveFunction), ("set", Builtins.setWords), ("shift", Builtins.shift),
    ("times", Builtins.times), ("trap", Builtins.trap), ("unset", Builtins.unset)]

/-- The special command with a name. A mistake in its use ends the shell. -/
def special? (name : String) : Option Utility :=
  specialTable.lookup name

/-- The other commands of the shell itself by their names. -/
def regularTable : List (String × Utility) :=
  [("true", Builtins.constant 0), ("false", Builtins.constant 1), ("echo", Builtins.echo),
    ("printf", Builtins.printf), ("read", Builtins.read), ("cd", Builtins.cd),
    ("chdir", Builtins.cd), ("pwd", Builtins.pwd), ("test", Builtins.test),
    ("[", Builtins.bracket), ("wait", Builtins.wait), ("kill", Builtins.kill),
    ("getopts", Builtins.getopts), ("umask", Builtins.umask), ("ulimit", Builtins.ulimit),
    ("jobs", Builtins.jobs), ("fg", Builtins.moveJob), ("bg", Builtins.moveJob),
    ("alias", Builtins.aliases), ("unalias", Builtins.unalias)]

/-- The other command of the shell itself with a name. -/
def regular? (name : String) : Option Utility :=
  regularTable.lookup name

end Compositor.Script
