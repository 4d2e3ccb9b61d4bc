import Compositor.Simulation.Script.Programs.Bytes
import Compositor.Simulation.Script.Programs.Characters
import Compositor.Simulation.Script.Programs.Comparing
import Compositor.Simulation.Script.Programs.Editing
import Compositor.Simulation.Script.Programs.Facts
import Compositor.Simulation.Script.Programs.Fields
import Compositor.Simulation.Script.Programs.Finding
import Compositor.Simulation.Script.Programs.Lines
import Compositor.Simulation.Script.Programs.Listing
import Compositor.Simulation.Script.Programs.Making
import Compositor.Simulation.Script.Programs.Names
import Compositor.Simulation.Script.Programs.Numbers
import Compositor.Simulation.Script.Programs.Plain
import Compositor.Simulation.Script.Programs.Searching
import Compositor.Simulation.Script.Programs.Sorting
import Compositor.Simulation.Script.Programs.Starting
import Compositor.Simulation.Script.Programs.System
import Compositor.Simulation.Script.Programs.Transfer

set_option autoImplicit false

/-!
# Programs

## Main definitions

* `Script.Programs.table` — the programs by their names.
* `Script.Programs.named?` — the program with a given name.
-/

namespace Compositor.Script.Programs

/-- The programs by their names. -/
def table : List (String × Program) :=
  nameTable ++ transferTable ++ makingTable ++ lineTable ++ fieldTable ++ sortTable ++
    numberTable ++ byteTable ++ editTable ++ searchTable ++ startTable ++ findTable ++
    plainTable ++ systemTable ++
    [("tr", alone tr), ("diff", alone diff), ("sdiff", alone sdiff), ("ls", alone ls), ("dir", alone ls),
      ("stat", alone stat), ("du", alone du)]

/-- The program with a given name. -/
def named? (name : String) : Option Program :=
  table.lookup name

end Compositor.Script.Programs
