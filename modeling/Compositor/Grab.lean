import Compositor.Flags
import Compositor.Geometry

set_option autoImplicit false

/-!
# Interactive grabs

While a grab is active the pointer moves or resizes one window instead of reaching the clients. A
grab remembers where the pointer was relative to what it drags: the window's origin for a move, the
dragged border for a resize.

## Main definitions

* `WindowId` — the number of a window record.
* `Interaction` — no grab, a move or a resize.
* `Interaction.beginMove`, `Interaction.beginResize?` — the start of a grab.
* `MoveGrab.target`, `ResizeGrab.target` — where a pointer position puts the window.
* `Span`, `Span.drag` — one axis of a box, and dragging one of its ends.
* `resizeBox` — dragging the edges of a box, each axis for itself.
-/

namespace Compositor

/-- The number of a window record. -/
structure WindowId where
  /-- The number. -/
  number : Nat
deriving DecidableEq, Inhabited

namespace WindowId

/-- Windows are ordered by number, which is the order of their creation. -/
instance : Ord WindowId := ⟨compareOn WindowId.number⟩

instance : Std.TransOrd WindowId := inferInstanceAs (Std.TransCmp (compareOn WindowId.number))

instance : Std.LawfulEqOrd WindowId where
  eq_of_compare {a b} h := by
    cases a
    cases b
    congr
    exact Std.LawfulEqOrd.eq_of_compare h

end WindowId

/-- The two kinds of grab. -/
inductive GrabMode where
  /-- The window follows the pointer. -/
  | move
  /-- The dragged edges follow the pointer. -/
  | resize
deriving DecidableEq

/-! ## Dragging an edge -/

/-- One axis of a box. -/
structure Span where
  /-- The near end. -/
  start : Coordinate
  /-- The distance to the far end. -/
  extent : Coordinate
deriving DecidableEq

/-- Which end of a span is dragged. -/
inductive DraggedEnd where
  /-- None. -/
  | neither
  /-- The left or upper end. -/
  | near
  /-- The right or lower end. -/
  | far
deriving DecidableEq

/-- The dragged end of the horizontal axis; left goes before right. -/
def Edges.horizontal (edges : Edges) : DraggedEnd :=
  if edges.contains Edges.left then .near
  else if edges.contains Edges.right then .far
  else .neither

/-- The dragged end of the vertical axis; top goes before bottom. -/
def Edges.vertical (edges : Edges) : DraggedEnd :=
  if edges.contains Edges.top then .near
  else if edges.contains Edges.bottom then .far
  else .neither

namespace Span

/-- The far end, within the range of coordinates. -/
def stop (span : Span) : Coordinate :=
  Coordinate.saturatingAdd span.start span.extent

/-- The span between two ends, of extent at least one. -/
def between (start stop : Coordinate) : Span :=
  ⟨start, max (Coordinate.saturatingSub stop start) 1⟩

/-- Moves the dragged end to a border coordinate, but no closer than one unit to the other end. -/
def drag (span : Span) (dragged : DraggedEnd) (border : Coordinate) : Span :=
  match dragged with
  | .neither => between span.start span.stop
  | .near => between (min border (Coordinate.saturatingSub span.stop 1)) span.stop
  | .far => between span.start (max border (Coordinate.saturatingAdd span.start 1))

end Span

/-- Moves the dragged edges of a box to the given border coordinates. -/
def resizeBox (anchor : Box) (edges : Edges) (border : Point Coordinate) : Box :=
  let horizontal := Span.drag ⟨anchor.x, anchor.width⟩ edges.horizontal border.x
  let vertical := Span.drag ⟨anchor.y, anchor.height⟩ edges.vertical border.y
  ⟨horizontal.start, vertical.start, horizontal.extent, vertical.extent⟩

/-! ## Grabs -/

/-- An active move. -/
structure MoveGrab where
  /-- The grabbed window. -/
  window : WindowId
  /-- The pointer relative to the window's origin when the grab began. -/
  offset : Point Float

/-- An active resize. -/
structure ResizeGrab where
  /-- The grabbed window. -/
  window : WindowId
  /-- The pointer relative to the dragged border when the grab began. -/
  offset : Point Float
  /-- The window's geometry in the layout when the grab began. -/
  anchor : Box
  /-- The dragged edges. -/
  edges : Edges

/-- The pointer relative to an origin in the layout. -/
def Point.relativeTo (cursor : Point Float) (origin : Point Coordinate) : Point Float :=
  ⟨cursor.x - Coordinate.toDouble origin.x, cursor.y - Coordinate.toDouble origin.y⟩

/-- The layout coordinates of a pointer position less an offset, each cut to its whole part. -/
def Point.less (cursor offset : Point Float) : Point Coordinate :=
  ⟨Coordinate.ofDouble (cursor.x - offset.x), Coordinate.ofDouble (cursor.y - offset.y)⟩

/-- The window's position for a pointer position. -/
def MoveGrab.target (grab : MoveGrab) (cursor : Point Float) : Point Coordinate :=
  cursor.less grab.offset

/-- The window's box for a pointer position. -/
def ResizeGrab.target (grab : ResizeGrab) (cursor : Point Float) : Box :=
  resizeBox grab.anchor grab.edges (cursor.less grab.offset)

/-- What the pointer is doing. -/
inductive Interaction where
  /-- It reaches the clients. -/
  | passThrough
  /-- It moves a window. -/
  | move (grab : MoveGrab)
  /-- It resizes a window. -/
  | resize (grab : ResizeGrab)

namespace Interaction

/-- The grabbed window. -/
def grabbed? : Interaction → Option WindowId
  | passThrough => none
  | move grab => some grab.window
  | resize grab => some grab.window

/-- The state after a window was released: no grab if it was the grabbed one. -/
def release (interaction : Interaction) (window : WindowId) : Interaction :=
  if interaction.grabbed? = some window then passThrough else interaction

/-- A move of a window placed at `position`. -/
def beginMove (window : WindowId) (cursor : Point Float) (position : Point Coordinate) :
    Interaction :=
  move ⟨window, cursor.relativeTo position⟩

/-- The border from which the offset of a resize is measured: the far edges of the anchor where
they are among `edges`, and its near edges elsewhere. -/
def referenceBorder (anchor : Box) (edges : Edges) : Except Overflow (Point Coordinate) := do
  let x ← if edges.contains Edges.right then anchor.right else pure anchor.x
  let y ← if edges.contains Edges.bottom then anchor.bottom else pure anchor.y
  return ⟨x, y⟩

/-- A resize of a window placed at `position` whose geometry, relative to that place, is
`geometry`. The anchor must lie within the range of coordinates. -/
def beginResize? (window : WindowId) (cursor : Point Float) (position : Point Coordinate)
    (geometry : Box) (edges : Edges) : Except Overflow Interaction := do
  let anchor ← geometry.translated position
  let border ← referenceBorder anchor edges
  return resize ⟨window, cursor.relativeTo border, anchor, edges⟩

end Interaction

end Compositor
