import Compositor.Proofs.Grab.Resizing
import Compositor.Proofs.Grab.Whole

set_option autoImplicit false

/-!
# Drags that follow the pointer

The pointer moves in doubles. Where it stands for a pair of integers, as long as they are not too
large, nothing is lost on the way from the offset of a grab to the border that is dragged: the
border is displaced by what the pointer has moved. So a drag does not move anything before the
pointer does, unless two opposite edges are dragged. Then the offset is measured from the far edge,
and the near edge is the one that follows.

## Main definitions

* `Point.IsWhole` — a place of the pointer stands for a pair of integers.
* `Frame.border` — where the offset of a resize is measured from.
* `Frame.displaced` — dragging by a distance over unbounded integers.

## Main results

* `Interaction.target_eq_anchor_iff` — when a resize that begins moves nothing.
* `Interaction.drags_translate` — a drag displaces what is dragged by what the pointer has moved.
-/

namespace Compositor

open Coordinate

/-! ## Places of the pointer -/

/-- A place of the pointer stands for a pair of integers that are smaller than a bound. -/
structure Point.IsWhole (cursor : Point Float) (place : Point Int) (bound : Nat) : Prop where
  /-- The horizontal coordinate. -/
  x : Double.IsWhole cursor.x place.x ∧ place.x.natAbs < bound
  /-- The vertical coordinate. -/
  y : Double.IsWhole cursor.y place.y ∧ place.y.natAbs < bound

/-- A whole place below a bound is one below every larger bound. -/
lemma Point.IsWhole.mono {cursor : Point Float} {place : Point Int} {bound larger : Nat}
    (h : cursor.IsWhole place bound) (hle : bound ≤ larger) : cursor.IsWhole place larger :=
  ⟨⟨h.x.1, Nat.lt_of_lt_of_le h.x.2 hle⟩, ⟨h.y.1, Nat.lt_of_lt_of_le h.y.2 hle⟩⟩

/-- The distance from one place to another. -/
def Point.distance (start stop : Point Int) : Point Int :=
  ⟨stop.x - start.x, stop.y - start.y⟩

/-- The sum of a pair of integers and a distance, each brought into the range of coordinates. -/
def Point.clampedAdd (place distance : Point Int) : Point Int :=
  ⟨clamp (place.x + distance.x), clamp (place.y + distance.y)⟩

/-- On one axis, the offset from an origin brings a later place to the origin displaced by what the
pointer has moved. -/
lemma Coordinate.toInt_ofDouble_sub_sub {x y : Float} {a b : Int} (hx : Double.IsWhole x a)
    (ha : a.natAbs < 2 ^ 51) (hy : Double.IsWhole y b) (hb : b.natAbs < 2 ^ 51)
    (origin : Coordinate) :
    (ofDouble (y - (x - origin.toDouble))).toInt = clamp (origin.toInt + (b - a)) := by
  have hlow := origin.le_toInt
  have hhigh := origin.toInt_lt
  have hoffset : Double.IsWhole (x - origin.toDouble) (a - origin.toInt) :=
    hx.sub (Double.isWhole_toDouble origin) (by omega)
  have hplace : b - (a - origin.toInt) = origin.toInt + (b - a) := by omega
  rw [(hy.sub hoffset (by omega)).ofDouble_eq, toInt_ofIntClamp, hplace]

/-- The offset from an origin brings a later place to the origin displaced by what the pointer has
moved. -/
lemma Point.toInts_less_relativeTo {began now : Point Float} {start stop : Point Int}
    (hb : began.IsWhole start (2 ^ 51)) (hn : now.IsWhole stop (2 ^ 51))
    (origin : Point Coordinate) :
    (now.less (began.relativeTo origin)).toInts =
      origin.toInts.clampedAdd (start.distance stop) :=
  congrArg₂ Point.mk (toInt_ofDouble_sub_sub hb.x.1 hb.x.2 hn.x.1 hn.x.2 origin.x)
    (toInt_ofDouble_sub_sub hb.y.1 hb.y.2 hn.y.1 hn.y.2 origin.y)

/-- A pointer that stays where it is stays at the border. -/
lemma Point.toInts_less_relativeTo_self {cursor : Point Float} {place : Point Int}
    (hc : cursor.IsWhole place (2 ^ 51)) (origin : Point Coordinate) :
    (cursor.less (cursor.relativeTo origin)).toInts = origin.toInts := by
  rw [Point.toInts_less_relativeTo hc hc]
  simp [clampedAdd, distance, toInts, clamp_of_fits (fits_toInt _)]

/-! ## One axis -/

namespace Interval

/-- The end that the offset of a resize is measured from. -/
def border (interval : Interval) (far : Bool) : Int :=
  if far then interval.stop else interval.start

/-- Displaces the near end, or else the far end, by a distance, but brings it no closer than one
unit to the other end. -/
def displaced (interval : Interval) (near far : Bool) (distance : Int) : Interval :=
  if near then ⟨min (interval.start + distance) (interval.stop - 1), interval.stop⟩
  else if far then ⟨interval.start, max (interval.stop + distance) (interval.start + 1)⟩
  else interval

/-- The ends that are dragged are displaced to coordinates. -/
structure DisplacesInRange (interval : Interval) (near far : Bool) (distance : Int) : Prop where
  /-- The near end. -/
  near : near = true → Coordinate.Fits (interval.start + distance)
  /-- The far end. -/
  far : far = true → Coordinate.Fits (interval.stop + distance)

variable {interval : Interval} {near far : Bool} {distance : Int}

/-- Unless both ends are dragged, the border is the end that is dragged. -/
lemma dragged_border_add (hone : ¬ (near = true ∧ far = true))
    (h : interval.DisplacesInRange near far distance) :
    interval.dragged near far (clamp (interval.border far + distance)) =
      interval.displaced near far distance := by
  unfold dragged displaced border
  cases near with
  | true =>
    cases far with
    | true => exact absurd ⟨rfl, rfl⟩ hone
    | false => simp [clamp_of_fits (h.near rfl)]
  | false =>
    cases far with
    | true => simp [clamp_of_fits (h.far rfl)]
    | false => rfl

end Interval

namespace Span.IsProper

variable {span : Span} {near far : Bool}

/-- An axis that is dragged to its border stays among the coordinates. -/
lemma fits_dragged_border (h : span.IsProper) :
    (span.interval.dragged near far (span.interval.border far)).Fits := by
  obtain ⟨start, extent⟩ := span
  obtain ⟨hextent, hstop⟩ := h
  have hlow := start.le_toInt
  have hhigh := extent.toInt_lt
  unfold Interval.Fits
  cases near <;> cases far <;>
    simp [interval, Interval.dragged, Interval.border, Fits] at hextent hstop ⊢ <;> omega

/-- **An axis that is dragged to its border stays as it is** unless both ends are dragged. Then the
near end goes to the far one, which makes no difference to an axis of one unit. -/
lemma dragged_border_eq_iff (h : span.IsProper) :
    span.interval.dragged near far (span.interval.border far) = span.interval ↔
      (near = true → far = true → span.extent = 1) := by
  have hextent := h.extent
  have hone : span.extent = 1 ↔ span.extent.toInt = 1 := Int32.toInt_inj.symm
  rw [hone]
  cases near <;> cases far <;> simp [interval, Interval.dragged, Interval.border] <;> omega

end Span.IsProper

/-! ## Both axes -/

namespace Frame

/-- The place that the offset of a resize is measured from. -/
def border (frame : Frame) (edges : Edges) : Point Int :=
  ⟨frame.horizontal.border (edges.contains Edges.right),
    frame.vertical.border (edges.contains Edges.bottom)⟩

/-- Displaces the dragged edge of each axis by a distance, but brings it no closer than one unit to
the opposite edge. -/
def displaced (frame : Frame) (edges : Edges) (distance : Point Int) : Frame where
  horizontal := frame.horizontal.displaced (edges.contains Edges.left)
    (edges.contains Edges.right) distance.x
  vertical := frame.vertical.displaced (edges.contains Edges.top)
    (edges.contains Edges.bottom) distance.y

/-- The edges that are dragged are displaced to coordinates. -/
structure DisplacesInRange (frame : Frame) (edges : Edges) (distance : Point Int) : Prop where
  /-- The left and the right edge. -/
  horizontal : frame.horizontal.DisplacesInRange (edges.contains Edges.left)
    (edges.contains Edges.right) distance.x
  /-- The upper and the lower edge. -/
  vertical : frame.vertical.DisplacesInRange (edges.contains Edges.top)
    (edges.contains Edges.bottom) distance.y

end Frame

/-- Two opposite edges are dragged. -/
def Edges.Opposed (edges : Edges) : Prop :=
  (edges.contains Edges.left = true ∧ edges.contains Edges.right = true) ∨
    (edges.contains Edges.top = true ∧ edges.contains Edges.bottom = true)

instance (edges : Edges) : Decidable edges.Opposed := inferInstanceAs (Decidable (_ ∨ _))

/-- Moving the dragged border of a frame moves the sides that are dragged. -/
lemma Frame.dragged_border_add {frame : Frame} {edges : Edges} {distance : Point Int}
    (hone : ¬ edges.Opposed) (h : frame.DisplacesInRange edges distance) :
    frame.dragged edges ((frame.border edges).clampedAdd distance) =
      frame.displaced edges distance :=
  congrArg₂ mk (Interval.dragged_border_add (fun hx => hone (.inl hx)) h.horizontal)
    (Interval.dragged_border_add (fun hy => hone (.inr hy)) h.vertical)

/-- A box is given by its edges. -/
lemma Box.frame_injective : Function.Injective Box.frame := by
  rintro ⟨x, y, width, height⟩ ⟨x', y', width', height'⟩ h
  simp only [frame, Span.interval, Frame.mk.injEq, Interval.mk.injEq] at h
  obtain ⟨⟨hx, hright⟩, hy, hbottom⟩ := h
  obtain rfl := Int32.toInt_inj.1 hx
  obtain rfl := Int32.toInt_inj.1 hy
  obtain rfl := Int32.toInt_inj.1 (Int.add_left_cancel hright)
  obtain rfl := Int32.toInt_inj.1 (Int.add_left_cancel hbottom)
  rfl

/-- A box that is dragged to its border stays as it is unless two opposite edges are dragged. -/
lemma Box.IsProper.dragged_border_eq_iff {anchor : Box} {edges : Edges} (h : anchor.IsProper) :
    anchor.frame.dragged edges (anchor.frame.border edges) = anchor.frame ↔
      (edges.contains Edges.left = true → edges.contains Edges.right = true → anchor.width = 1) ∧
      (edges.contains Edges.top = true → edges.contains Edges.bottom = true →
        anchor.height = 1) :=
  (Frame.mk.injEq ..).to_iff.trans
    (and_congr h.horizontal.dragged_border_eq_iff h.vertical.dragged_border_eq_iff)

/-! ## The start of a resize -/

namespace Interaction

variable {position : Point Coordinate} {geometry anchor : Box}

/-- The border of a proper span is in range, and is one of its two ends. -/
lemma exists_borderOf_eq_ok {span : Span} (h : span.IsProper) (far : Bool) :
    ∃ border, borderOf span.start span.extent far = .ok border ∧
      border.toInt = span.interval.border far := by
  cases far with
  | true => exact ⟨_, add_of_fits h.stop, toInt_add_of_fits h.stop⟩
  | false => exact ⟨span.start, rfl, rfl⟩

/-- A resize of a proper box begins, and its offset is measured from a border of the box. -/
lemma exists_beginResize?_eq_ok (window : WindowId) (cursor : Point Float) (edges : Edges)
    (ha : geometry.translated position = .ok anchor) (hp : anchor.IsProper) :
    ∃ border : Point Coordinate, border.toInts = anchor.frame.border edges ∧
      beginResize? window cursor position geometry edges =
        .ok (.resize ⟨window, cursor.relativeTo border, anchor, edges⟩) := by
  obtain ⟨x, hx, hborderX⟩ := exists_borderOf_eq_ok hp.horizontal (edges.contains Edges.right)
  obtain ⟨y, hy, hborderY⟩ := exists_borderOf_eq_ok hp.vertical (edges.contains Edges.bottom)
  have hborder : referenceBorder anchor edges = .ok ⟨x, y⟩ := by
    rw [referenceBorder_eq, hx, hy]
    rfl
  refine ⟨⟨x, y⟩, congrArg₂ Point.mk hborderX hborderY, ?_⟩
  unfold beginResize?
  rw [ha]
  change (referenceBorder anchor edges >>= _) = _
  rw [hborder]
  rfl

/-- **A resize that begins moves nothing unless two opposite edges are dragged** on an axis that is
longer than one unit.

**Proof sketch.** The pointer is still where it was, so the border that it stands for is the one
from which the offset was measured. Dragging an axis to that border is left to be looked at. -/
theorem target_eq_anchor_iff {cursor : Point Float} {place : Point Int} (window : WindowId)
    (edges : Edges) (ha : geometry.translated position = .ok anchor) (hp : anchor.IsProper)
    (hc : cursor.IsWhole place (2 ^ 51)) :
    ∃ grab, beginResize? window cursor position geometry edges = .ok (.resize grab) ∧
      grab.anchor = anchor ∧
      (grab.target cursor = anchor ↔
        (edges.contains Edges.left = true → edges.contains Edges.right = true →
          anchor.width = 1) ∧
        (edges.contains Edges.top = true → edges.contains Edges.bottom = true →
          anchor.height = 1)) := by
  obtain ⟨border, hborder, hbegun⟩ := exists_beginResize?_eq_ok window cursor edges ha hp
  refine ⟨_, hbegun, rfl, ?_⟩
  have hplace := (Point.toInts_less_relativeTo_self hc border).trans hborder
  have hframe := frame_resizeBox edges (cursor.less (cursor.relativeTo border)) hp (by
    rw [hplace]
    exact ⟨hp.horizontal.fits_dragged_border, hp.vertical.fits_dragged_border⟩)
  rw [hplace] at hframe
  change resizeBox anchor edges _ = anchor ↔ _
  rw [← Box.frame_injective.eq_iff, hframe]
  exact hp.dragged_border_eq_iff

/-- A window is resized by its lower right corner. -/
theorem target_eq_anchor_iff_corner :
    let cursor : Point Float := ⟨toDouble 312, toDouble 225⟩
    ∃ grab, beginResize? ⟨1⟩ cursor ⟨100, 50⟩ ⟨5, 5, 200, 150⟩ (Edges.bottom.union Edges.right) =
      .ok (.resize grab) ∧ grab.target cursor = ⟨105, 55, 200, 150⟩ := by
  intro cursor
  have htranslated : (⟨5, 5, 200, 150⟩ : Box).translated ⟨100, 50⟩ = .ok ⟨105, 55, 200, 150⟩ := by
    decide
  have hcursor : cursor.IsWhole ⟨312, 225⟩ (2 ^ 51) :=
    ⟨⟨Double.isWhole_toDouble 312, by decide⟩, ⟨Double.isWhole_toDouble 225, by decide⟩⟩
  obtain ⟨grab, hbegun, -, hiff⟩ :=
    target_eq_anchor_iff ⟨1⟩ (Edges.bottom.union Edges.right) htranslated
      ⟨⟨by decide, by decide⟩, ⟨by decide, by decide⟩⟩ hcursor
  exact ⟨grab, hbegun, hiff.2 (by decide)⟩

/-- **A resize by two opposite edges takes a window to one unit** before the pointer moves: the
offset is measured from the right edge, and the left edge follows. -/
theorem exists_target_ne_anchor :
    let cursor : Point Float := ⟨toDouble 0, toDouble 0⟩
    let box : Box := ⟨0, 0, 200, 100⟩
    cursor.IsWhole ⟨0, 0⟩ (2 ^ 51) ∧ box.translated ⟨0, 0⟩ = .ok box ∧ box.IsProper ∧
      ∃ grab, beginResize? ⟨1⟩ cursor ⟨0, 0⟩ box (Edges.left.union Edges.right) =
        .ok (.resize grab) ∧ grab.target cursor = ⟨199, 0, 1, 100⟩ := by
  refine ⟨⟨⟨Double.isWhole_toDouble 0, by decide⟩, ⟨Double.isWhole_toDouble 0, by decide⟩⟩,
    by decide, ⟨⟨by decide, by decide⟩, ⟨by decide, by decide⟩⟩, _, rfl, ?_⟩
  decide +kernel

/-! ## Drags -/

/-- **A drag displaces what is dragged by what the pointer has moved.** Unless two opposite edges
are dragged, a resize displaces the dragged edges of the anchor, as long as they and the resized box
stay in range, and leaves its other edges where they are. A move displaces the window, and stops at
the ends of the range.

**Proof sketch.** The offset of a grab and the pointer's later place are both whole, and so are
their differences. For a resize, the border from which the offset is measured is the edge that is
dragged. -/
theorem drags_translate {began now : Point Float} {start stop : Point Int}
    (hb : began.IsWhole start (2 ^ 50)) (hn : now.IsWhole stop (2 ^ 50)) (window : WindowId)
    (position : Point Coordinate) :
    (∀ (geometry anchor : Box) (edges : Edges), ¬ edges.Opposed →
      geometry.translated position = .ok anchor → anchor.IsProper →
      ∃ grab, beginResize? window began position geometry edges = .ok (.resize grab) ∧
        grab.anchor = anchor ∧
        (anchor.frame.DisplacesInRange edges (start.distance stop) →
          (anchor.frame.displaced edges (start.distance stop)).Fits →
          (grab.target now).frame = anchor.frame.displaced edges (start.distance stop))) ∧
    ∃ grab, beginMove window began position = .move grab ∧
      (grab.target now).toInts = position.toInts.clampedAdd (start.distance stop) := by
  have hlarge : 2 ^ 50 ≤ 2 ^ 51 := by decide
  have hmoved := Point.toInts_less_relativeTo (hb.mono hlarge) (hn.mono hlarge)
  refine ⟨fun geometry anchor edges hone ha hp => ?_, _, rfl, hmoved position⟩
  obtain ⟨border, hborder, hbegun⟩ := exists_beginResize?_eq_ok window began edges ha hp
  refine ⟨_, hbegun, rfl, fun hrange hfits => ?_⟩
  have hdragged : anchor.frame.dragged edges (now.less (began.relativeTo border)).toInts =
      anchor.frame.displaced edges (start.distance stop) := by
    rw [hmoved border, hborder, Frame.dragged_border_add hone hrange]
  exact (frame_resizeBox edges _ hp (hdragged.symm ▸ hfits)).trans hdragged

/-- The upper left corner of a window is dragged, and then the window. -/
theorem drags_translate_corner :
    let began : Point Float := ⟨toDouble 100, toDouble 100⟩
    let now : Point Float := ⟨toDouble 70, toDouble 500⟩
    ∃ resized moved, beginResize? ⟨1⟩ began ⟨100, 100⟩ ⟨5, 5, 200, 150⟩
        (Edges.top.union Edges.left) = .ok (.resize resized) ∧
      beginMove ⟨1⟩ began ⟨100, 100⟩ = .move moved ∧
      (resized.target now).frame = ⟨⟨75, 305⟩, ⟨254, 255⟩⟩ ∧
      (moved.target now).toInts = ⟨70, 500⟩ := by
  intro began now
  have hbegan : began.IsWhole ⟨100, 100⟩ (2 ^ 50) :=
    ⟨⟨Double.isWhole_toDouble 100, by decide⟩, ⟨Double.isWhole_toDouble 100, by decide⟩⟩
  have hnow : now.IsWhole ⟨70, 500⟩ (2 ^ 50) :=
    ⟨⟨Double.isWhole_toDouble 70, by decide⟩, ⟨Double.isWhole_toDouble 500, by decide⟩⟩
  obtain ⟨hresized, moved, hmove, hplace⟩ := drags_translate hbegan hnow ⟨1⟩ ⟨100, 100⟩
  obtain ⟨resized, hresize, -, hframe⟩ := hresized ⟨5, 5, 200, 150⟩ ⟨105, 105, 200, 150⟩
    (Edges.top.union Edges.left) (by decide) (by decide)
    ⟨⟨by decide, by decide⟩, ⟨by decide, by decide⟩⟩
  exact ⟨resized, moved, hresize, hmove,
    hframe ⟨⟨by decide, by decide⟩, ⟨by decide, by decide⟩⟩ (by decide), hplace⟩

end Interaction

end Compositor
