import Compositor.Geometry
import Compositor.Grab
import Compositor.Handle
import Std.Data.ExtTreeMap

set_option autoImplicit false

/-!
# Windows and the focus stack

The records of all windows, mapped or not, and the order in which the mapped ones hold the focus.
The front of the focus stack is the focused, topmost window.

## Main definitions

* `Window` — a record: the handles of a window, whether it is mapped, its place and geometry.
* `WindowTable` — the records by number, and the focus stack.
* `WindowTable.insert`, `WindowTable.destroy`, `WindowTable.update` — the records.
* `WindowTable.push`, `WindowTable.unstack`, `WindowTable.moveToFront` — the focus stack.
-/

namespace Compositor

/-- The record of a window. -/
structure Window where
  /-- Its number. -/
  id : WindowId
  /-- The toplevel. -/
  toplevel : Handle
  /-- The toplevel's root surface. -/
  surface : Handle
  /-- The scene node that places the window. -/
  scene : Handle
  /-- Whether it is visible. -/
  mapped : Bool
  /-- The place of its scene node. -/
  position : Point Coordinate
  /-- The geometry that the client committed last, relative to the surface. -/
  geometry : Box
deriving DecidableEq

/-- The record of a window that was just created. -/
def Window.fresh (id : WindowId) (toplevel surface scene : Handle) : Window :=
  ⟨id, toplevel, surface, scene, false, ⟨0, 0⟩, Box.empty⟩

/-- All windows, and the mapped ones in focus order. -/
structure WindowTable where
  /-- The records. -/
  records : Std.ExtTreeMap WindowId Window
  /-- The numbers of the stacked windows, front first. -/
  stack : List WindowId

namespace WindowTable

/-- The table without windows. -/
def empty : WindowTable := ⟨∅, []⟩

/-! ## Records -/

/-- The record with a given number. -/
def get? (table : WindowTable) (id : WindowId) : Option Window :=
  table.records[id]?

/-- Adds a record under its own number. -/
def insert (table : WindowTable) (window : Window) : WindowTable :=
  { table with records := table.records.insert window.id window }

/-- Changes the record with a given number, if there is one. -/
def update (table : WindowTable) (id : WindowId) (change : Window → Window) : WindowTable :=
  match table.get? id with
  | some window => { table with records := table.records.insert id (change window) }
  | none => table

/-- All records, by ascending number. -/
def windows (table : WindowTable) : List Window :=
  table.records.toList.map Prod.snd

/-- The number of the first record with a given toplevel. -/
def findByToplevel? (table : WindowTable) (toplevel : Handle) : Option WindowId :=
  (table.windows.find? fun window => window.toplevel = toplevel).map Window.id

/-- The number of the first record with a given root surface. -/
def findBySurface? (table : WindowTable) (surface : Handle) : Option WindowId :=
  (table.windows.find? fun window => window.surface = surface).map Window.id

/-! ## The focus stack -/

/-- Whether a window is stacked. -/
def stacked (table : WindowTable) (id : WindowId) : Bool :=
  table.stack.contains id

/-- Stacks a window at the back, unless it is stacked already. -/
def push (table : WindowTable) (id : WindowId) : WindowTable :=
  if table.stacked id then table else { table with stack := table.stack ++ [id] }

/-- Takes a window off the stack. -/
def unstack (table : WindowTable) (id : WindowId) : WindowTable :=
  { table with stack := table.stack.erase id }

/-- Moves a stacked window to the front. -/
def moveToFront (table : WindowTable) (id : WindowId) : WindowTable :=
  if table.stacked id then { table with stack := id :: table.stack.erase id } else table

/-- Drops a record and its place in the stack. -/
def destroy (table : WindowTable) (id : WindowId) : WindowTable :=
  let unstacked := table.unstack id
  { unstacked with records := unstacked.records.erase id }

/-- The focused window. -/
def front? (table : WindowTable) : Option WindowId :=
  table.stack[0]?

/-- The window right behind the focused one. -/
def next? (table : WindowTable) : Option WindowId :=
  table.stack[1]?

/-- The records of the stacked windows, front to back. -/
def stackedWindows (table : WindowTable) : List Window :=
  table.stack.filterMap table.get?

end WindowTable

end Compositor
