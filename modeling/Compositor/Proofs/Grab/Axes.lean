import Compositor.Proofs.Grab.Resizing

set_option autoImplicit false

/-!
# The two axes of a resize

A resize treats the axes of a box one by one, and both by the same rule. This module says how the
rule answers to the border. As the border grows, a near end that is dragged moves up and the extent
shrinks, and a far end that is dragged lets the extent grow and the near end stay. A border that is
met already moves nothing. All of this holds at the ends of the range of coordinates too, where the
arithmetic of a resize stops. The far edge of a resized box need not be that of the anchor there, so
that a second resize starts from another limit than the first.

## Main definitions

* `Box.horizontal`, `Box.vertical` — the axes of a box.
* `Span.FollowsBorder` — how one axis of a box answers to a growing border.

## Main results

* `Span.between_stop_between` — a span is the one between its own ends.
* `Span.drag_drag`, `Span.followsBorder_drag` — how a drag along one axis answers to the border.
* `resizeBox_resizeBox` — resizing to the same border twice is resizing once.
* `resizeBox_axes` — the axes do not depend on each other, and each follows its border.
-/

namespace Compositor

open Coordinate

/-! ## The axes of a box -/

namespace Box

/-- The horizontal axis. -/
def horizontal (box : Box) : Span := ⟨box.x, box.width⟩

/-- The vertical axis. -/
def vertical (box : Box) : Span := ⟨box.y, box.height⟩

/-- A box is determined by its spans on the two axes. -/
lemma eq_of_axes {box other : Box} (hhorizontal : box.horizontal = other.horizontal)
    (hvertical : box.vertical = other.vertical) : box = other := by
  obtain ⟨hx, hwidth⟩ := Span.mk.inj hhorizontal
  obtain ⟨hy, hheight⟩ := Span.mk.inj hvertical
  rw [Box.mk.injEq]
  exact ⟨hx, hy, hwidth, hheight⟩

end Box

/-- Each axis is dragged by itself. -/
@[simp]
lemma horizontal_resizeBox (anchor : Box) (edges : Edges) (border : Point Coordinate) :
    (resizeBox anchor edges border).horizontal =
      anchor.horizontal.drag edges.horizontal border.x := rfl

/-- A resize acts on the vertical axis as a drag of the vertical border. -/
@[simp]
lemma vertical_resizeBox (anchor : Box) (edges : Edges) (border : Point Coordinate) :
    (resizeBox anchor edges border).vertical =
      anchor.vertical.drag edges.vertical border.y := rfl

/-! ## One axis, resized again -/

namespace Span

variable {span : Span} {start stop border : Coordinate}

/-- Settling a span does not move its start. -/
lemma start_between (start stop : Coordinate) : (between start stop).start = start := rfl

/-- Dragging the near border moves the start up to the last place before the stop, which stays. -/
lemma drag_near (span : Span) (border : Coordinate) :
    span.drag .near border = between (min border (saturatingSub span.stop 1)) span.stop := rfl

/-- Dragging the far border moves the stop down to the first place behind the start, which stays. -/
lemma drag_far (span : Span) (border : Coordinate) :
    span.drag .far border = between span.start (max border (saturatingAdd span.start 1)) := rfl

/-- The stop of a settled span lies at least one place behind its start, unless it is clamped. -/
lemma toInt_stop_between (start stop : Coordinate) :
    (between start stop).stop.toInt =
      clamp (start.toInt + max (clamp (stop.toInt - start.toInt)) 1) := by
  rw [Span.stop, toInt_saturatingAdd, start_between, toInt_extent_between]

/-- **A span is the one between its own ends**, also where its extent was cut off or raised to one
unit, so that its far end is not the one that was asked for. -/
lemma between_stop_between (start stop : Coordinate) :
    between start (between start stop).stop = between start stop := by
  have hextent : (between start (between start stop).stop).extent =
      (between start stop).extent := by
    have hstart := fits_toInt start
    have hstop := fits_toInt stop
    rw [← Int32.toInt_inj, toInt_extent_between, toInt_extent_between, toInt_stop_between]
    unfold Fits at hstart hstop
    unfold clamp
    omega
  exact congrArg (Span.mk start) hextent

/-- The limit of a near end is one unit before the far end. If it is dragged within its limit, the
new limit lies between the two. -/
lemma limit_between (h : start.toInt ≤ (saturatingSub stop 1).toInt) :
    start.toInt ≤ (saturatingSub (between start stop).stop 1).toInt ∧
      (saturatingSub (between start stop).stop 1).toInt ≤ (saturatingSub stop 1).toInt := by
  have hstart := fits_toInt start
  have hstop := fits_toInt stop
  simp only [toInt_saturatingSub, toInt_stop_between, toInt_one] at h ⊢
  unfold Fits at hstart hstop
  unfold clamp at h ⊢
  omega

/-- **Dragging to the same border twice is dragging once.**

**Proof sketch.** The limit of a far end is measured from the near end, which stays where it is. The
limit of a near end is measured from the far end, which may have moved; but the near end is within
the new limit, and the new limit is within the old one. -/
lemma drag_drag (span : Span) (dragged : DraggedEnd) (border : Coordinate) :
    (span.drag dragged border).drag dragged border = span.drag dragged border := by
  cases dragged with
  | neither => exact between_stop_between span.start span.stop
  | far => rw [drag_far, drag_far, start_between]
  | near =>
    let start := min border (saturatingSub span.stop 1)
    have hstart : start.toInt = min border.toInt (saturatingSub span.stop 1).toInt := toInt_min ..
    have hlimit : start.toInt ≤ (saturatingSub span.stop 1).toInt := by omega
    obtain ⟨hwithin, hlower⟩ := limit_between hlimit
    have hsame : min border (saturatingSub (between start span.stop).stop 1) = start := by
      rw [← Int32.toInt_inj, toInt_min]
      omega
    have honce : span.drag .near border = between start span.stop := rfl
    rw [honce, drag_near, hsame, between_stop_between]

end Span

/-- **Resizing to the same border twice is resizing once**, whatever the anchor, the edges and the
border are.

**Proof sketch.** On each axis by `Span.drag_drag`. -/
theorem resizeBox_resizeBox (anchor : Box) (edges : Edges) (border : Point Coordinate) :
    resizeBox (resizeBox anchor edges border) edges border = resizeBox anchor edges border := by
  apply Box.eq_of_axes
  · rw [horizontal_resizeBox, horizontal_resizeBox, Span.drag_drag]
  · rw [vertical_resizeBox, vertical_resizeBox, Span.drag_drag]

/-- A box that reaches beyond the range of coordinates comes to an end there, once. -/
example : let box := resizeBox ⟨2147483642, 0, 10, -4⟩ Edges.bottom ⟨0, -2147483648⟩
    box = ⟨2147483642, 0, 5, 1⟩ ∧ resizeBox box Edges.bottom ⟨0, -2147483648⟩ = box := by
  decide

/-! ## One axis, with a growing border -/

namespace Span

/-- How an axis answers to a border, if its near end is dragged, or else its far end. -/
structure FollowsBorder (axis : Span) (near far : Bool) (resized : Coordinate → Span) : Prop where
  /-- A near end that is dragged never moves back, and the extent never grows. -/
  of_near : near = true → ∀ border other, border ≤ other →
    (resized border).start ≤ (resized other).start ∧
      (resized other).extent ≤ (resized border).extent
  /-- If just the far end is dragged, the near end stays, and the extent never shrinks. -/
  of_far : near = false → far = true →
    (∀ border, (resized border).start = axis.start) ∧
      ∀ border other, border ≤ other → (resized border).extent ≤ (resized other).extent
  /-- If no end is dragged, the border has no effect. -/
  of_neither : near = false → far = false → ∀ border other, resized border = resized other

variable {span : Span} {start stop border other : Coordinate}

/-- A span whose near end moves up does not grow. -/
lemma extent_between_anti (h : start ≤ other) :
    (between other stop).extent ≤ (between start stop).extent := by
  rw [Int32.le_iff_toInt_le] at h ⊢
  rw [toInt_extent_between, toInt_extent_between]
  unfold clamp
  omega

/-- A span whose far end moves up does not shrink. -/
lemma extent_between_mono (h : stop ≤ other) :
    (between start stop).extent ≤ (between start other).extent := by
  rw [Int32.le_iff_toInt_le] at h ⊢
  rw [toInt_extent_between, toInt_extent_between]
  unfold clamp
  omega

/-- The near end moves with the border, up to its limit. -/
lemma start_drag_near_mono (h : border ≤ other) :
    (span.drag .near border).start ≤ (span.drag .near other).start := by
  rw [Int32.le_iff_toInt_le] at h ⊢
  rw [drag_near, drag_near, start_between, start_between]
  rw [toInt_min, toInt_min]
  omega

/-- The further the near border is dragged, the smaller the span. -/
lemma extent_drag_near_anti (h : border ≤ other) :
    (span.drag .near other).extent ≤ (span.drag .near border).extent := by
  rw [drag_near, drag_near]
  exact extent_between_anti (start_drag_near_mono h)

/-- Dragging the far border does not move the start. -/
lemma start_drag_far (span : Span) (border : Coordinate) :
    (span.drag .far border).start = span.start := by
  rw [drag_far, start_between]

/-- The further the far border is dragged, the larger the span. -/
lemma extent_drag_far_mono (h : border ≤ other) :
    (span.drag .far border).extent ≤ (span.drag .far other).extent := by
  rw [drag_far, drag_far]
  apply extent_between_mono
  rw [Int32.le_iff_toInt_le] at h ⊢
  rw [toInt_max, toInt_max]
  omega

/-- **A drag along one axis follows the border.** -/
lemma followsBorder_drag (span : Span) (near far : Bool) :
    span.FollowsBorder near far
      (span.drag (if near then .near else if far then .far else .neither)) := by
  cases near with
  | true =>
    rw [if_pos rfl]
    exact ⟨fun _ _ _ hle => ⟨start_drag_near_mono hle, extent_drag_near_anti hle⟩, nofun, nofun⟩
  | false =>
    rw [if_neg Bool.false_ne_true]
    cases far with
    | true =>
      rw [if_pos rfl]
      exact ⟨nofun, fun _ _ => ⟨start_drag_far span, fun _ _ hle => extent_drag_far_mono hle⟩, nofun⟩
    | false =>
      rw [if_neg Bool.false_ne_true]
      exact ⟨nofun, nofun, fun _ _ _ _ => rfl⟩

end Span

/-! ## Both axes -/

/-- **The axes of a resize are independent, and each follows its border.** Of two resizes that agree
in the anchor's horizontal axis, the left and right edges and the horizontal border, both come to
the same horizontal axis, and likewise for the vertical axis. As its border grows, a left or upper
edge that is dragged never moves back and the extent never grows; if just a right or lower edge is
dragged, the near edge stays and the extent never shrinks; and the border of an axis of which no
edge is dragged has no effect.

**Proof sketch.** Each axis of the resized box is the axis of the anchor after a drag, and which of
its ends is dragged is told from its two edges alone. -/
theorem resizeBox_axes :
    (∀ (anchor anchor' : Box) (edges edges' : Edges) (border border' : Point Coordinate),
      (anchor.horizontal = anchor'.horizontal →
        edges.contains Edges.left = edges'.contains Edges.left →
        edges.contains Edges.right = edges'.contains Edges.right → border.x = border'.x →
        (resizeBox anchor edges border).horizontal =
          (resizeBox anchor' edges' border').horizontal) ∧
      (anchor.vertical = anchor'.vertical →
        edges.contains Edges.top = edges'.contains Edges.top →
        edges.contains Edges.bottom = edges'.contains Edges.bottom → border.y = border'.y →
        (resizeBox anchor edges border).vertical =
          (resizeBox anchor' edges' border').vertical)) ∧
    ∀ (anchor : Box) (edges : Edges) (border : Point Coordinate),
      anchor.horizontal.FollowsBorder (edges.contains Edges.left) (edges.contains Edges.right)
        (fun x => (resizeBox anchor edges ⟨x, border.y⟩).horizontal) ∧
      anchor.vertical.FollowsBorder (edges.contains Edges.top) (edges.contains Edges.bottom)
        (fun y => (resizeBox anchor edges ⟨border.x, y⟩).vertical) := by
  refine ⟨fun anchor anchor' edges edges' border border' => ⟨?_, ?_⟩,
    fun anchor edges border => ⟨?_, ?_⟩⟩
  · intro haxis hleft hright hborder
    have hdragged : edges.horizontal = edges'.horizontal := by
      unfold Edges.horizontal
      rw [hleft, hright]
    rw [horizontal_resizeBox, horizontal_resizeBox, haxis, hdragged, hborder]
  · intro haxis htop hbottom hborder
    have hdragged : edges.vertical = edges'.vertical := by
      unfold Edges.vertical
      rw [htop, hbottom]
    rw [vertical_resizeBox, vertical_resizeBox, haxis, hdragged, hborder]
  · have hdrag : (fun x => (resizeBox anchor edges ⟨x, border.y⟩).horizontal) =
        anchor.horizontal.drag edges.horizontal := by
      funext x
      rw [horizontal_resizeBox]
    rw [hdrag, Edges.horizontal]
    exact Span.followsBorder_drag _ _ _
  · have hdrag : (fun y => (resizeBox anchor edges ⟨border.x, y⟩).vertical) =
        anchor.vertical.drag edges.vertical := by
      funext y
      rw [vertical_resizeBox]
    rw [hdrag, Edges.vertical]
    exact Span.followsBorder_drag _ _ _

/-- Two anchors and two sets of edges that agree in the horizontal axis only, one set with a bit
that has no name; and a left edge that is dragged from one end of the range to the other. -/
theorem resizeBox_axes_endToEnd :
    let sized : Coordinate → Span := fun x =>
      (resizeBox ⟨2147483642, 0, 10, 4⟩ (Edges.left.union Edges.right) ⟨x, 0⟩).horizontal
    (resizeBox ⟨100, 7, 200, -3⟩ ⟨0x14⟩ ⟨80, 1⟩).horizontal =
        (resizeBox ⟨100, -50, 200, 9⟩ ⟨0x05⟩ ⟨80, -9⟩).horizontal ∧
      (-2147483648 : Coordinate) ≤ 2147483647 ∧
      (sized (-2147483648)).start ≤ (sized 2147483647).start ∧
      (sized 2147483647).extent ≤ (sized (-2147483648)).extent := by
  intro sized
  have hle : (-2147483648 : Coordinate) ≤ 2147483647 := by decide
  have hsame := (resizeBox_axes.1 ⟨100, 7, 200, -3⟩ ⟨100, -50, 200, 9⟩ ⟨0x14⟩ ⟨0x05⟩ ⟨80, 1⟩
    ⟨80, -9⟩).1 rfl (by decide) (by decide) rfl
  have hfollows := (resizeBox_axes.2 ⟨2147483642, 0, 10, 4⟩ (Edges.left.union Edges.right)
    ⟨0, 0⟩).1
  exact ⟨hsame, hle, hfollows.of_near (by decide) _ _ hle⟩

end Compositor
