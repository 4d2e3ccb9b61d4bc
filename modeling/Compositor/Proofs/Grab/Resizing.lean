import Compositor.Proofs.Server.Dragging

set_option autoImplicit false

/-!
# Resizing a box

The arithmetic of a resize stops at the ends of the range of coordinates at each of its steps. This
module compares it with the same drag over unbounded integers, where nothing stops. As long as that
drag comes to a box of coordinates, both come to the same box; and whatever happens at the ends of
the range, the box has a size that can be asked for.

## Main definitions

* `Interval.dragged`, `Frame.dragged` — dragging over unbounded integers.
* `Box.frame` — the edges of a box.
* `Box.IsProper` — a box with a size whose far edges are coordinates.

## Main results

* `frame_resizeBox` — a resized box is that of the unbounded drag.
* `resizeBox_exact_and_sized` — it is, where it can be, and it always has a size.
-/

namespace Compositor

/-! ## Dragging over unbounded integers -/

/-- One axis of a box over unbounded integers. -/
structure Interval where
  /-- The near end. -/
  start : Int
  /-- The far end. -/
  stop : Int
deriving DecidableEq

namespace Interval

/-- Moves the near end, or else the far end, to a border, but no closer than one unit to the other
end. -/
def dragged (interval : Interval) (near far : Bool) (border : Int) : Interval :=
  if near then ⟨min border (interval.stop - 1), interval.stop⟩
  else if far then ⟨interval.start, max border (interval.start + 1)⟩
  else interval

/-- The near end and the length are coordinates. -/
def Fits (interval : Interval) : Prop :=
  Coordinate.Fits interval.start ∧ Coordinate.Fits (interval.stop - interval.start)

instance (interval : Interval) : Decidable interval.Fits := inferInstanceAs (Decidable (_ ∧ _))

end Interval

/-- The edges of a box over unbounded integers. -/
structure Frame where
  /-- The left and the right edge. -/
  horizontal : Interval
  /-- The upper and the lower edge. -/
  vertical : Interval
deriving DecidableEq

namespace Frame

/-- Moves the dragged edge of each axis to its border: left goes before right, and top before
bottom. -/
def dragged (frame : Frame) (edges : Edges) (border : Point Int) : Frame where
  horizontal :=
    frame.horizontal.dragged (edges.contains Edges.left) (edges.contains Edges.right) border.x
  vertical :=
    frame.vertical.dragged (edges.contains Edges.top) (edges.contains Edges.bottom) border.y

/-- The near edges and the size are coordinates. -/
def Fits (frame : Frame) : Prop := frame.horizontal.Fits ∧ frame.vertical.Fits

instance (frame : Frame) : Decidable frame.Fits := inferInstanceAs (Decidable (_ ∧ _))

end Frame

namespace Span

/-- The two ends of a span. -/
def interval (span : Span) : Interval :=
  ⟨span.start.toInt, span.start.toInt + span.extent.toInt⟩

/-- A span has a length, and its far end is a coordinate. -/
structure IsProper (span : Span) : Prop where
  /-- It is at least one unit long. -/
  extent : 1 ≤ span.extent.toInt
  /-- The far end is a coordinate. -/
  stop : Coordinate.Fits (span.start.toInt + span.extent.toInt)

end Span

namespace Box

/-- The edges of a box. -/
def frame (box : Box) : Frame :=
  ⟨Span.interval ⟨box.x, box.width⟩, Span.interval ⟨box.y, box.height⟩⟩

/-- A box has a size, and its far edges are coordinates. -/
structure IsProper (box : Box) : Prop where
  /-- The horizontal axis. -/
  horizontal : Span.IsProper ⟨box.x, box.width⟩
  /-- The vertical axis. -/
  vertical : Span.IsProper ⟨box.y, box.height⟩

end Box

/-! ## Coordinates as integers -/

namespace Coordinate

/-- The coordinate one is the integer one. -/
lemma toInt_one : (1 : Coordinate).toInt = 1 := rfl

/-- Every coordinate is in range. -/
lemma fits_toInt (a : Coordinate) : Fits a.toInt :=
  ⟨a.le_toInt, Int.le_of_lt_add_one a.toInt_lt⟩

/-- The smaller of two coordinates is the smaller of the integers. -/
lemma toInt_min (a b : Coordinate) : (min a b).toInt = min a.toInt b.toInt := by
  have hmin : min a b = if a ≤ b then a else b := rfl
  rw [hmin, Int.min_def]
  simp only [Int32.le_iff_toInt_le]
  split <;> rfl

/-- The larger of two coordinates is the larger of the integers. -/
lemma toInt_max (a b : Coordinate) : (max a b).toInt = max a.toInt b.toInt := by
  have hmax : max a b = if a ≤ b then b else a := rfl
  rw [hmax, Int.max_def]
  simp only [Int32.le_iff_toInt_le]
  split <;> rfl

/-- A length is the same number without a sign. -/
lemma toNat_toUInt32 {a : Coordinate} (h : 0 ≤ a.toInt) : (a.toUInt32.toNat : Int) = a.toInt := by
  have hbits : a.toInt = if 2 * a.toUInt32.toNat < 2 ^ 32 then (a.toUInt32.toNat : Int)
      else a.toUInt32.toNat - (2 ^ 32 : Nat) := BitVec.toInt_eq_toNat_cond a.toBitVec
  have hlt := a.toUInt32.toNat_lt
  split at hbits <;> omega

end Coordinate

open Coordinate

/-! ## One axis -/

namespace Span

variable {span : Span} {border : Coordinate}

/-- The extent of a settled span is the clamped distance of its ends, and at least one. -/
lemma toInt_extent_between (start stop : Coordinate) :
    (between start stop).extent.toInt = max (clamp (stop.toInt - start.toInt)) 1 := by
  rw [between, toInt_max, toInt_saturatingSub, toInt_one]

/-- The extent between two ends is at least one unit. -/
lemma one_le_toInt_extent_drag (dragged : DraggedEnd) :
    1 ≤ (span.drag dragged border).extent.toInt := by
  cases dragged <;> rw [drag, toInt_extent_between] <;> exact Int.le_max_right ..

/-- Two ends in order are kept if their distance is a coordinate. -/
lemma interval_between {start stop : Coordinate} {a b : Int} (ha : start.toInt = a)
    (hb : stop.toInt = b) (hlt : a < b) (hfits : Fits (b - a)) :
    (between start stop).interval = ⟨a, b⟩ := by
  have hextent : (between start stop).extent.toInt = b - a := by
    rw [toInt_extent_between, ha, hb, clamp_of_fits hfits]
    omega
  rw [interval, hextent]
  change Interval.mk start.toInt (start.toInt + (b - a)) = _
  rw [ha, Int.add_comm, Int.sub_add_cancel]

/-- The stop of a proper span is that of the integers. -/
lemma toInt_stop (h : span.IsProper) : span.stop.toInt = span.start.toInt + span.extent.toInt := by
  rw [stop, toInt_saturatingAdd, clamp_of_fits h.stop]

/-- The limits of a drag are coordinates. -/
lemma toInt_saturatingSub_stop (h : span.IsProper) :
    (saturatingSub span.stop 1).toInt = span.start.toInt + span.extent.toInt - 1 := by
  have hlow := span.start.le_toInt
  rw [toInt_saturatingSub, toInt_stop h, toInt_one, clamp_of_fits]
  obtain ⟨hextent, hfits⟩ := h
  unfold Fits at *
  omega

/-- The place behind the start of a proper span is in range. -/
lemma toInt_saturatingAdd_start (h : span.IsProper) :
    (saturatingAdd span.start 1).toInt = span.start.toInt + 1 := by
  have hlow := span.start.le_toInt
  rw [toInt_saturatingAdd, toInt_one, clamp_of_fits]
  obtain ⟨hextent, hfits⟩ := h
  unfold Fits at *
  omega

/-- **An axis is dragged as over unbounded integers** if that comes to a span of coordinates.

**Proof sketch.** The ends stay in order, so that their distance is no less than one unit. -/
lemma interval_drag (h : span.IsProper) {near far : Bool}
    (hfits : (span.interval.dragged near far border.toInt).Fits) :
    (span.drag (if near then .near else if far then .far else .neither) border).interval =
      span.interval.dragged near far border.toInt := by
  have hextent := h.extent
  unfold Interval.dragged at hfits ⊢
  cases near with
  | true =>
    have hstart : (min border (saturatingSub span.stop 1)).toInt =
        min border.toInt (span.start.toInt + span.extent.toInt - 1) := by
      rw [toInt_min, toInt_saturatingSub_stop h]
    exact interval_between hstart (toInt_stop h) (by omega) hfits.2
  | false =>
    cases far with
    | true =>
      have hstop : (max border (saturatingAdd span.start 1)).toInt =
          max border.toInt (span.start.toInt + 1) := by
        rw [toInt_max, toInt_saturatingAdd_start h]
      exact interval_between rfl hstop (by omega) hfits.2
    | false => exact interval_between rfl (toInt_stop h) (by omega) hfits.2

end Span

/-! ## Both axes -/

variable {anchor : Box}

/-- A pair of coordinates as integers. -/
def Point.toInts (point : Point Coordinate) : Point Int :=
  ⟨point.x.toInt, point.y.toInt⟩

/-- A box is resized as over unbounded integers if that comes to a box of coordinates. -/
lemma frame_resizeBox (edges : Edges) (border : Point Coordinate) (h : anchor.IsProper)
    (hfits : (anchor.frame.dragged edges border.toInts).Fits) :
    (resizeBox anchor edges border).frame = anchor.frame.dragged edges border.toInts :=
  congrArg₂ Frame.mk (Span.interval_drag h.horizontal hfits.1)
    (Span.interval_drag h.vertical hfits.2)

/-- A box is at least one unit wide and one unit high. -/
structure Box.IsSized (box : Box) : Prop where
  /-- The width. -/
  width : 1 ≤ box.width.toInt ∧ box.width.toInt ≤ 2147483647
  /-- The height. -/
  height : 1 ≤ box.height.toInt ∧ box.height.toInt ≤ 2147483647

/-- A resized box has a width and a height from one up to the largest coordinate. -/
lemma isSized_resizeBox (anchor : Box) (edges : Edges) (border : Point Coordinate) :
    (resizeBox anchor edges border).IsSized where
  width := ⟨Span.one_le_toInt_extent_drag _, (fits_toInt _).2⟩
  height := ⟨Span.one_le_toInt_extent_drag _, (fits_toInt _).2⟩

/-! ## The size that is asked for -/

/-- If an entry of the journal asks for a size, it is that of a box. -/
def Record.AsksFor (box : Box) (record : Record) : Prop :=
  ∀ toplevel width height, record.size? toplevel = some (width, height) →
    (width.toNat : Int) = box.width.toInt ∧ (height.toNat : Int) = box.height.toInt

/-- A size that is asked for with words of 32 bits is the size of the box. -/
lemma Record.asksFor_setToplevelSize {box : Box} (h : box.IsSized) (toplevel : Handle) :
    (command (.setToplevelSize toplevel box.width.toUInt32 box.height.toUInt32)).AsksFor box := by
  intro other width height hsize
  simp only [size?, Option.ite_none_right_eq_some, Option.some.injEq, Prod.mk.injEq] at hsize
  obtain ⟨-, rfl, rfl⟩ := hsize
  exact ⟨toNat_toUInt32 (Int.le_of_lt h.width.1), toNat_toUInt32 (Int.le_of_lt h.height.1)⟩

namespace Server

variable {T : Type} [Toolkit T]

/-- The size of a resized window is asked for without wrapping around. -/
lemma noted_asksFor_processResize (server : Server T) (grab : ResizeGrab) :
    Noted (Record.AsksFor (grab.target (Toolkit.cursorPosition server.toolkit))) server
      (server.processResize grab).server := by
  unfold processResize
  cases server.windows.get? grab.window with
  | none => exact .of_eq rfl
  | some window =>
    dsimp only
    split
    · exact .of_eq rfl
    · rename_i position _
      have hplaced : Noted (Record.AsksFor (grab.target (Toolkit.cursorPosition server.toolkit)))
          server (server.placeWindow grab.window window.scene position) := .of_cons rfl nofun
      exact hplaced.trans
        (.of_cons rfl (Record.asksFor_setToplevelSize (isSized_resizeBox ..) window.toplevel))

end Server

/-- **A resized box is exact where it can be, and always has a size.** If a drag over unbounded
integers takes a proper box to a box of coordinates, a resize takes it there too. Whatever the box,
the edges and the borders are, the resized box is at least one unit wide and one unit high, so that
its size is asked for as it is.

**Proof sketch.** Axis by axis. Where the unbounded drag comes to coordinates, no step is cut off
(`frame_resizeBox`). The extent of a dragged axis is the clamped distance of its ends, but at least
one (`isSized_resizeBox`), and the size of such a box is asked for as it is
(`Server.noted_asksFor_processResize`). -/
theorem resizeBox_exact_and_sized :
    (∀ (anchor : Box) (edges : Edges) (border : Point Coordinate), anchor.IsProper →
      (anchor.frame.dragged edges border.toInts).Fits →
      (resizeBox anchor edges border).frame = anchor.frame.dragged edges border.toInts) ∧
    (∀ (anchor : Box) (edges : Edges) (border : Point Coordinate),
      (resizeBox anchor edges border).IsSized) ∧
    ∀ (T : Type) [Toolkit T] (server : Server T) (grab : ResizeGrab),
      ∀ record ∈ (server.processResize grab).server.recordsSince server,
        record.AsksFor (grab.target (Toolkit.cursorPosition server.toolkit)) :=
  ⟨fun _ edges border h hfits => frame_resizeBox edges border h hfits, isSized_resizeBox,
    fun _ _ server grab _ hm => (server.noted_asksFor_processResize grab).of_mem_recordsSince hm⟩

/-- The upper left corner of a box is dragged outwards, and a window with a box at the origin is
resized by its right edge to the cursor that is there. -/
theorem resizeBox_exact_and_sized_corner :
    let server := (Server.standard.enact Server.leftEdgeDragged).2
    let grab : ResizeGrab := ⟨⟨1⟩, ⟨0, 0⟩, ⟨0, 0, 200, 100⟩, Edges.right⟩
    (resizeBox ⟨100, 100, 200, 100⟩ (Edges.top.union Edges.left) ⟨80, 90⟩).frame =
        ⟨⟨80, 300⟩, ⟨90, 200⟩⟩ ∧
      ∃ record ∈ (server.processResize grab).server.recordsSince server,
        record.size? ⟨0x50⟩ = some (1, 100) ∧
          record.AsksFor (grab.target (Toolkit.cursorPosition server.toolkit)) := by
  intro server grab
  refine ⟨resizeBox_exact_and_sized.1 ⟨100, 100, 200, 100⟩ (Edges.top.union Edges.left) ⟨80, 90⟩
    ⟨⟨by decide, by decide⟩, ⟨by decide, by decide⟩⟩ (by decide), ?_⟩
  have hsize : ((server.processResize grab).server.recordsSince server).findSome?
      (Record.size? ⟨0x50⟩) = some (1, 100) := by decide +kernel
  obtain ⟨record, hm, hr⟩ := List.exists_of_findSome?_eq_some hsize
  exact ⟨record, hm, hr, resizeBox_exact_and_sized.2.2 Headless server grab record hm⟩

end Compositor
