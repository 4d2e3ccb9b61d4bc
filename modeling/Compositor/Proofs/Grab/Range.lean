import Compositor.Server.Pointer
import Mathlib.Tactic.Common

set_option autoImplicit false

/-!
# Numbers in the range of coordinates

A resize computes with exact sums when it begins, and with exact differences when it places the
window. This module says, in terms of unbounded integers, when all of these stay in the range of
coordinates. The box in between never leaves it, since a dragged edge stops at the ends.

## Main definitions

* `Interaction.BeginsInRange` — the numbers of a resize are in range when it begins.
* `Server.PlacesInRange` — those of the window's new place are in range.

## Main results

* `Interaction.exists_beginResize?_eq_error_iff` — when a resize cannot begin.
* `Server.exists_originOf_eq_error_iff` — when a window cannot be placed.
-/

namespace Compositor

namespace Coordinate

variable {a b : Coordinate} {n : Int}

/-- A number in range does not wrap around. -/
lemma bmod_of_fits (h : Fits n) : n.bmod Int32.size = n := by
  unfold Fits at h
  unfold Int32.size
  exact Int.bmod_eq_of_le_mul_two (by omega) (by omega)

/-- A sum in range is that of the integers. -/
lemma toInt_add_of_fits (h : Fits (a.toInt + b.toInt)) : (a + b).toInt = a.toInt + b.toInt :=
  (Int32.toInt_add a b).trans (bmod_of_fits h)

/-- A sum in range is no overflow. -/
lemma add_of_fits (h : Fits (a.toInt + b.toInt)) : add a b = .ok (a + b) :=
  if_pos h

/-- A sum out of range is an overflow. -/
lemma add_of_not_fits (h : ¬ Fits (a.toInt + b.toInt)) : add a b = .error .addition :=
  if_neg h

/-- A difference in range is no overflow. -/
lemma sub_of_fits (h : Fits (a.toInt - b.toInt)) : sub a b = .ok (a - b) :=
  if_pos h

/-- A difference out of range is an overflow. -/
lemma sub_of_not_fits (h : ¬ Fits (a.toInt - b.toInt)) : sub a b = .error .subtraction :=
  if_neg h

end Coordinate

open Coordinate

namespace Interaction

/-- The numbers with which a resize begins are in range: the place of the window's geometry in the
layout, and those of its far edges that are dragged. -/
@[mk_iff]
structure BeginsInRange (position : Point Coordinate) (geometry : Box) (edges : Edges) : Prop where
  /-- The left edge. -/
  left : Fits (geometry.x.toInt + position.x.toInt)
  /-- The upper edge. -/
  top : Fits (geometry.y.toInt + position.y.toInt)
  /-- The right edge, if it is dragged. -/
  right : edges.contains Edges.right = true →
    Fits (geometry.x.toInt + position.x.toInt + geometry.width.toInt)
  /-- The lower edge, if it is dragged. -/
  bottom : edges.contains Edges.bottom = true →
    Fits (geometry.y.toInt + position.y.toInt + geometry.height.toInt)

end Interaction

/-! ## The start of a resize -/

/-- Two computations whose results are put together end by an overflow if one of them does. -/
lemma exists_pair_eq_error_iff {α β γ : Type} {first : Except Overflow α}
    {second : Except Overflow β} {pair : α → β → γ} :
    (∃ cause, (do let x ← first; let y ← second; return pair x y) = .error cause) ↔
      (∃ cause, first = .error cause) ∨ ∃ cause, second = .error cause := by
  cases first with
  | error cause => simp [bind, Except.bind]
  | ok x => cases second <;> simp [bind, Except.bind, pure, Except.pure]

/-- Two computations whose results are put together end well if both of them do. -/
lemma pair_eq_ok {α β γ : Type} {first : Except Overflow α} {second : Except Overflow β}
    {pair : α → β → γ} {result : γ}
    (h : (do let x ← first; let y ← second; return pair x y) = .ok result) :
    ∃ x y, first = .ok x ∧ second = .ok y ∧ result = pair x y := by
  cases first with
  | error cause => cases h
  | ok x =>
    cases second with
    | error cause => cases h
    | ok y =>
      cases h
      exact ⟨x, y, rfl, rfl, rfl⟩

/-- A sum overflows just if it is out of range. -/
lemma exists_add_eq_error_iff {a b : Coordinate} :
    (∃ cause, add a b = .error cause) ↔ ¬ Fits (a.toInt + b.toInt) := by
  by_cases h : Fits (a.toInt + b.toInt)
  · simp [add_of_fits h, h]
  · simp [add_of_not_fits h, h]

/-- A difference overflows just if it is out of range. -/
lemma exists_sub_eq_error_iff {a b : Coordinate} :
    (∃ cause, sub a b = .error cause) ↔ ¬ Fits (a.toInt - b.toInt) := by
  by_cases h : Fits (a.toInt - b.toInt)
  · simp [sub_of_fits h, h]
  · simp [sub_of_not_fits h, h]

/-- A sum that does not overflow is that of the integers. -/
lemma toInt_of_add_eq_ok {a b sum : Coordinate} (h : add a b = .ok sum) :
    sum.toInt = a.toInt + b.toInt := by
  by_cases hf : Fits (a.toInt + b.toInt)
  · rw [add_of_fits hf] at h
    cases h
    exact toInt_add_of_fits hf
  · rw [add_of_not_fits hf] at h
    cases h

/-- A translated box overflows just if one of the coordinates of its place does. -/
lemma Box.exists_translated_eq_error_iff (box : Box) (offset : Point Coordinate) :
    (∃ cause, box.translated offset = .error cause) ↔
      ¬ Fits (box.x.toInt + offset.x.toInt) ∨ ¬ Fits (box.y.toInt + offset.y.toInt) := by
  unfold translated
  rw [exists_pair_eq_error_iff, exists_add_eq_error_iff, exists_add_eq_error_iff]

/-- A box that is translated without overflow keeps its size, and its place is moved in the
integers. -/
lemma Box.toInt_of_translated_eq_ok {box moved : Box} {offset : Point Coordinate}
    (h : box.translated offset = .ok moved) :
    moved.x.toInt = box.x.toInt + offset.x.toInt ∧ moved.y.toInt = box.y.toInt + offset.y.toInt ∧
      moved.width = box.width ∧ moved.height = box.height := by
  obtain ⟨x, y, hx, hy, rfl⟩ := pair_eq_ok h
  exact ⟨toInt_of_add_eq_ok hx, toInt_of_add_eq_ok hy, rfl, rfl⟩

namespace Interaction

variable {window : WindowId} {cursor : Point Float} {position : Point Coordinate} {geometry : Box}
  {edges : Edges}

/-- The coordinate from which one axis of a resize is measured: the far end if it is dragged. -/
def borderOf (near extent : Coordinate) (dragged : Bool) : Except Overflow Coordinate :=
  if dragged = true then add near extent else pure near

/-- The border of a span overflows just if it is the far one and out of range. -/
lemma exists_borderOf_eq_error_iff {near extent : Coordinate} {dragged : Bool} :
    (∃ cause, borderOf near extent dragged = .error cause) ↔
      dragged = true ∧ ¬ Fits (near.toInt + extent.toInt) := by
  cases dragged with
  | false => simp [borderOf, pure, Except.pure]
  | true => simpa [borderOf] using exists_add_eq_error_iff

/-- The axes are measured from one after the other. -/
lemma referenceBorder_eq (anchor : Box) (edges : Edges) :
    referenceBorder anchor edges = (do
      let x ← borderOf anchor.x anchor.width (edges.contains Edges.right)
      let y ← borderOf anchor.y anchor.height (edges.contains Edges.bottom)
      return ⟨x, y⟩) := by
  unfold referenceBorder borderOf Box.right Box.bottom
  cases edges.contains Edges.right <;> cases edges.contains Edges.bottom <;> rfl

/-- The border that a resize refers to overflows just if the right or the bottom one does. -/
lemma exists_referenceBorder_eq_error_iff {anchor : Box} :
    (∃ cause, referenceBorder anchor edges = .error cause) ↔
      (edges.contains Edges.right = true ∧ ¬ Fits (anchor.x.toInt + anchor.width.toInt)) ∨
        (edges.contains Edges.bottom = true ∧ ¬ Fits (anchor.y.toInt + anchor.height.toInt)) := by
  rw [referenceBorder_eq, exists_pair_eq_error_iff, exists_borderOf_eq_error_iff,
    exists_borderOf_eq_error_iff]

/-- **A resize cannot begin just if its numbers leave the range.** -/
theorem exists_beginResize?_eq_error_iff :
    (∃ cause, beginResize? window cursor position geometry edges = .error cause) ↔
      ¬ BeginsInRange position geometry edges := by
  have htranslated := Box.exists_translated_eq_error_iff geometry position
  unfold beginResize?
  cases ht : geometry.translated position with
  | error cause =>
    refine iff_of_true ⟨cause, rfl⟩ fun h => ?_
    rcases htranslated.1 ⟨cause, ht⟩ with hx | hy
    · exact hx h.left
    · exact hy h.top
  | ok anchor =>
    obtain ⟨hx, hy, hwidth, hheight⟩ := Box.toInt_of_translated_eq_ok ht
    have hin : Fits (geometry.x.toInt + position.x.toInt) ∧
        Fits (geometry.y.toInt + position.y.toInt) := by
      rw [ht] at htranslated
      simpa [not_or] using htranslated
    -- once the anchor is in range, only its dragged far edges can leave it
    have hborder : (∃ cause, (referenceBorder anchor edges >>= fun border =>
        pure (resize ⟨window, cursor.relativeTo border, anchor, edges⟩)) = .error cause) ↔
          ∃ cause, referenceBorder anchor edges = .error cause := by
      cases referenceBorder anchor edges <;> simp [bind, Except.bind, pure, Except.pure]
    rw [exists_referenceBorder_eq_error_iff, hx, hy, hwidth, hheight] at hborder
    refine hborder.trans ?_
    rw [beginsInRange_iff, and_iff_right hin.1, and_iff_right hin.2, not_and_or, Classical.not_imp,
      Classical.not_imp]

end Interaction

/-! ## The place of a resized window -/

/-- The place at which a window's geometry fills a box is in range. -/
def Server.PlacesInRange (target geometry : Box) : Prop :=
  Fits (target.x.toInt - geometry.x.toInt) ∧ Fits (target.y.toInt - geometry.y.toInt)

/-- **A window cannot be placed just if its place leaves the range.** -/
theorem Server.exists_originOf_eq_error_iff (target geometry : Box) :
    (∃ cause, originOf target geometry = .error cause) ↔ ¬ PlacesInRange target geometry := by
  unfold originOf PlacesInRange
  rw [exists_pair_eq_error_iff, exists_sub_eq_error_iff, exists_sub_eq_error_iff, not_and_or]

end Compositor
