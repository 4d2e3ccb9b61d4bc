import Compositor.Proofs.Windows.Agreement

set_option autoImplicit false

/-!
# The front of the focus stack

What can be seen of a window from outside are its objects and whether it is mapped. Only three
things happen to the windows that can be seen so: a new one appears, one comes to the front, and one
is withdrawn, be it unmapped or destroyed. This module says for each of them what becomes of two
relations between the windows and what the toolkit was told of them: that the focus is in front, and
that the active window has the focus.

## Main definitions

* `Face`, `WindowTable.face?` — what can be seen of a window.
* `WindowTable.Alike`, `WindowTable.Added`, `WindowTable.Fronted`, `WindowTable.Withdrawn` — the
  table looks as before, or it differs in one window.
* `WindowTable.Keeps` — no window has appeared, and only given ones were unmapped.
* `WindowTable.Apart` — no object belongs to two windows.
* `WindowTable.FocusInFront`, `WindowTable.ActiveInFocus` — the two relations.

## Main results

* `WindowTable.FocusInFront.alike`, `WindowTable.FocusInFront.added`,
  `WindowTable.FocusInFront.fronted`, `WindowTable.FocusInFront.withdrawn` — the focus is in front.
* `WindowTable.ActiveInFocus.alike`, `WindowTable.ActiveInFocus.added`,
  `WindowTable.ActiveInFocus.fronted`, `WindowTable.ActiveInFocus.withdrawn` — the active window has
  the focus.
-/

namespace Compositor

/-- What can be seen of a window. -/
structure Face where
  /-- The toplevel. -/
  toplevel : Handle
  /-- The root surface. -/
  surface : Handle
  /-- The scene node. -/
  scene : Handle
  /-- Whether the window is mapped. -/
  mapped : Bool

/-- What a record shows. -/
def Window.face (window : Window) : Face :=
  ⟨window.toplevel, window.surface, window.scene, window.mapped⟩

namespace WindowTable

variable {table before middle after : WindowTable} {id other : WindowId} {face found : Face}

/-- What can be seen of the window with a given number. -/
def face? (table : WindowTable) (id : WindowId) : Option Face :=
  (table.get? id).map Window.face

/-- What can be seen of a window is read off its record. -/
lemma face?_of_get? {window : Window} (h : table.get? id = some window) :
    table.face? id = some window.face := by
  rw [face?, h]
  rfl

/-- A window of which something can be seen has a record. -/
lemma exists_of_face? (h : table.face? id = some face) :
    ∃ window, table.get? id = some window ∧ window.face = face :=
  Option.map_eq_some_iff.1 h

/-- An inserted window shows what its record says, and the others what they did. -/
lemma face?_insert (table : WindowTable) (window : Window) (other : WindowId) :
    (table.insert window).face? other =
      if other = window.id then some window.face else table.face? other := by
  unfold face?
  rw [get?_insert]
  split <;> rfl

/-- Only the window whose record changes may look different. -/
lemma face?_update (table : WindowTable) (id : WindowId) (change : Window → Window)
    (other : WindowId) :
    (table.update id change).face? other =
      if other = id then (table.get? id).map fun window => (change window).face
      else table.face? other := by
  unfold face?
  rw [get?_update]
  split
  · rw [Option.map_map]
    rfl
  · rfl

/-- Nothing can be seen of a destroyed window, and the others look as before. -/
lemma face?_destroy (table : WindowTable) (id other : WindowId) :
    (table.destroy id).face? other = if other = id then none else table.face? other := by
  unfold face?
  rw [get?_destroy]
  split <;> rfl

/-- Pushing changes no look. -/
@[simp]
lemma face?_push (table : WindowTable) (id other : WindowId) :
    (table.push id).face? other = table.face? other := by
  rw [face?, get?_push, face?]

/-- Taking off the stack changes no look. -/
@[simp]
lemma face?_unstack (table : WindowTable) (id other : WindowId) :
    (table.unstack id).face? other = table.face? other := rfl

/-- Moving to the front changes no look. -/
@[simp]
lemma face?_moveToFront (table : WindowTable) (id other : WindowId) :
    (table.moveToFront id).face? other = table.face? other := by
  rw [face?, get?_moveToFront, face?]

/-- The stacked windows are those that are seen to be mapped. -/
lemma Agrees.mem_stack_iff_face? (a : Agrees table) :
    id ∈ table.stack ↔ ∃ face, table.face? id = some face ∧ face.mapped = true := by
  rw [a.mem_stack_iff]
  constructor
  · rintro ⟨window, hw, hm⟩
    exact ⟨window.face, face?_of_get? hw, hm⟩
  · rintro ⟨face, hf, hm⟩
    obtain ⟨window, hw, rfl⟩ := exists_of_face? hf
    exact ⟨window, hw, hm⟩

/-! ## Differences between tables -/

/-- A table looks like another one. -/
structure Alike (before after : WindowTable) : Prop where
  /-- The same can be seen of every window. -/
  face?_eq (id : WindowId) : after.face? id = before.face? id
  /-- The windows are stacked alike. -/
  stack_eq : after.stack = before.stack

namespace Alike

/-- A table looks like itself. -/
lemma refl (table : WindowTable) : Alike table table := ⟨fun _ => rfl, rfl⟩

/-- Tables that look like a third one look alike. -/
lemma trans (h : Alike before middle) (h' : Alike middle after) : Alike before after :=
  ⟨fun id => (h'.face?_eq id).trans (h.face?_eq id), h'.stack_eq.trans h.stack_eq⟩

/-- A change of a record that cannot be seen. -/
lemma update (table : WindowTable) (id : WindowId) {change : Window → Window}
    (h : ∀ window, (change window).face = window.face) : Alike table (table.update id change) where
  face?_eq other := by
    rw [face?_update]
    split <;> rename_i ho
    · subst ho
      unfold face?
      exact congrArg (table.get? other).map (funext h)
    · rfl
  stack_eq := stack_update table id change

end Alike

/-- A window has appeared, which is not mapped yet. -/
structure Added (id : WindowId) (face : Face) (before after : WindowTable) : Prop where
  /-- It was not there before. -/
  new : before.face? id = none
  /-- It is not mapped. -/
  mapped_eq : face.mapped = false
  /-- The others look as before. -/
  face?_eq (other : WindowId) :
    after.face? other = if other = id then some face else before.face? other
  /-- The windows are stacked as before. -/
  stack_eq : after.stack = before.stack

/-- A window has come to the front, where it is mapped. -/
structure Fronted (id : WindowId) (face : Face) (before after : WindowTable) : Prop where
  /-- It was there before, with the same objects. -/
  old : ∃ mapped, before.face? id = some { face with mapped }
  /-- It is mapped. -/
  mapped_eq : face.mapped = true
  /-- The others look as before. -/
  face?_eq (other : WindowId) :
    after.face? other = if other = id then some face else before.face? other
  /-- It is in front of the others. -/
  stack_eq : after.stack = id :: before.stack.erase id

/-- A window is mapped no more, or is no longer there. -/
structure Withdrawn (id : WindowId) (before after : WindowTable) : Prop where
  /-- If it is still there, it is not mapped, and has the same objects. -/
  left {face : Face} : after.face? id = some face → face.mapped = false ∧
    ∃ mapped, before.face? id = some { face with mapped }
  /-- The others look as before. -/
  face?_eq {other : WindowId} : other ≠ id → after.face? other = before.face? other
  /-- It is not stacked any more. -/
  stack_eq : after.stack = before.stack.erase id

/-! ### The differences that the steps make -/

/-- A new record of an unmapped window. -/
lemma Added.insert {window : Window} (hn : table.get? window.id = none)
    (hm : window.mapped = false) : Added window.id window.face table (table.insert window) where
  new := by
    unfold face?
    rw [hn]
    rfl
  mapped_eq := hm
  face?_eq := face?_insert table window
  stack_eq := rfl

/-- The steps by which a mapped window is mapped once more, and left in its place. -/
lemma Alike.map (a : Agrees table) {window : Window} (hw : table.get? id = some window)
    (hm : window.mapped = true) :
    Alike table ((table.update id fun found => { found with mapped := true }).push id) where
  face?_eq other := by
    rw [face?_push, face?_update]
    split <;> rename_i ho
    · subst ho
      rw [face?_of_get? hw, hw, Option.map_some]
      exact congrArg (fun mapped => some { window.face with mapped }) hm.symm
    · rfl
  stack_eq := by
    have hstacked : (table.update id fun found => { found with mapped := true }).stacked id =
        true := by
      rw [stacked_iff, stack_update]
      exact a.mem_stack_iff.2 ⟨window, hw, hm⟩
    rw [push, if_pos hstacked, stack_update]

/-- A mapped window is moved to the front. -/
lemma Fronted.moveToFront (a : Agrees table) {window : Window} (hw : table.get? id = some window)
    (hm : window.mapped = true) : Fronted id window.face table (table.moveToFront id) where
  old := ⟨window.mapped, face?_of_get? hw⟩
  mapped_eq := hm
  face?_eq other := by
    rw [face?_moveToFront]
    split <;> rename_i ho
    · rw [ho, face?_of_get? hw]
    · rfl
  stack_eq := by
    have hstacked : table.stacked id = true := stacked_iff.2 (a.mem_stack_iff.2 ⟨window, hw, hm⟩)
    rw [WindowTable.moveToFront, if_pos hstacked]

/-- A window is mapped and moved to the front. -/
lemma Fronted.map {window : Window} (hw : table.get? id = some window) :
    Fronted id { window.face with mapped := true } table
      (((table.update id fun found => { found with mapped := true }).push id).moveToFront id) where
  old := ⟨window.mapped, face?_of_get? hw⟩
  mapped_eq := rfl
  face?_eq other := by
    rw [face?_moveToFront, face?_push, face?_update, hw]
    rfl
  stack_eq := by
    set marked := table.update id fun found => { found with mapped := true } with hmarked
    have hstack : marked.stack = table.stack := stack_update table id _
    have hstacked : (marked.push id).stacked id = true :=
      stacked_iff.2 (mem_stack_push.2 (.inr rfl))
    have herase : (marked.push id).stack.erase id = table.stack.erase id := by
      unfold push
      split <;> rename_i hs
      · rw [hstack]
      · have hn : id ∉ table.stack := by rwa [stacked_iff, hstack] at hs
        rw [hstack, List.erase_append_right _ hn, List.erase_of_not_mem hn]
        simp
    rw [WindowTable.moveToFront, if_pos hstacked, herase]

/-- A window is unmapped, whether or not it was mapped, and whether or not it has a record. -/
lemma Withdrawn.unmap (table : WindowTable) (id : WindowId) :
    Withdrawn id table
      ((table.update id fun found => { found with mapped := false }).unstack id) where
  left {face} hf := by
    rw [face?_unstack, face?_update, if_pos rfl] at hf
    obtain ⟨window, hw, rfl⟩ := Option.map_eq_some_iff.1 hf
    exact ⟨rfl, window.mapped, face?_of_get? hw⟩
  face?_eq ho := by rw [face?_unstack, face?_update, if_neg ho]
  stack_eq := by rw [unstack, stack_update]

/-- A window is destroyed. -/
lemma Withdrawn.destroy (table : WindowTable) (id : WindowId) :
    Withdrawn id table (table.destroy id) where
  left hf := by
    rw [face?_destroy, if_pos rfl] at hf
    cases hf
  face?_eq ho := by rw [face?_destroy, if_neg ho]
  stack_eq := stack_destroy table id

/-! ### Windows that stay -/

/-- No window has appeared, and those that are there still have the same objects. Windows with given
root surfaces may have been unmapped, but no others. -/
def Keeps (leaves : Handle → Bool) (before after : WindowTable) : Prop :=
  ∀ id face, after.face? id = some face → ∃ mapped, before.face? id = some { face with mapped } ∧
    (mapped = true → leaves face.surface = false → face.mapped = true)

namespace Keeps

variable {leaves : Handle → Bool}

/-- All windows of a table stay in it. -/
lemma refl (table : WindowTable) : Keeps leaves table table :=
  fun _ face hf => ⟨face.mapped, hf, fun hm _ => hm⟩

/-- Windows that stay twice stay. -/
lemma trans (h : Keeps leaves before middle) (h' : Keeps leaves middle after) :
    Keeps leaves before after := by
  intro id face hf
  obtain ⟨_, hmiddle, hlast⟩ := h' id face hf
  obtain ⟨mapped, hbefore, hfirst⟩ := h id _ hmiddle
  exact ⟨mapped, hbefore, fun hm hl => hlast (hfirst hm hl) hl⟩

/-- Tables that look alike have the same windows. -/
lemma alike (h : Alike before after) : Keeps leaves before after :=
  fun id face hf => ⟨face.mapped, (h.face?_eq id).symm.trans hf, fun hm _ => hm⟩

/-- A window that comes to the front is mapped, and all windows stay. -/
lemma fronted (h : Fronted id face before after) : Keeps leaves before after := by
  intro other found hf
  rw [h.face?_eq] at hf
  split at hf <;> rename_i ho
  · cases hf
    obtain ⟨mapped, hold⟩ := h.old
    exact ⟨mapped, ho ▸ hold, fun _ _ => h.mapped_eq⟩
  · exact ⟨found.mapped, hf, fun hm _ => hm⟩

/-- The window that is withdrawn must be among those that may be unmapped. -/
lemma withdrawn (h : Withdrawn id before after)
    (hl : ∀ face, before.face? id = some face → leaves face.surface = true) :
    Keeps leaves before after := by
  intro other found hf
  by_cases ho : other = id
  · subst ho
    obtain ⟨-, mapped, hold⟩ := h.left hf
    refine ⟨mapped, hold, fun _ hn => ?_⟩
    have hleaves := hl _ hold
    rw [hn] at hleaves
    cases hleaves
  · exact ⟨found.mapped, (h.face?_eq ho).symm.trans hf, fun hm _ => hm⟩

end Keeps

/-! ### Windows that share nothing -/

/-- No root surface is that of two windows, or the toplevel of another window. -/
def Apart (table : WindowTable) : Prop :=
  ∀ id other face found, table.face? id = some face → table.face? other = some found →
    id ≠ other → face.surface ≠ found.surface ∧ face.surface ≠ found.toplevel

namespace Apart

/-- A root surface belongs to one window. -/
lemma id_eq (h : Apart table) (hf : table.face? id = some face)
    (hf' : table.face? other = some found) (he : face.surface = found.surface) : id = other := by
  by_contra hne
  exact (h id other face found hf hf' hne).1 he

/-- Windows share nothing as long as none appears, since those that stay keep their objects. -/
lemma keeps {leaves : Handle → Bool} (h : Apart before) (hk : Keeps leaves before after) :
    Apart after := by
  intro id other face found hf hf' hne
  obtain ⟨_, hfirst, -⟩ := hk id face hf
  obtain ⟨_, hsecond, -⟩ := hk other found hf'
  have happart := h id other _ _ hfirst hsecond hne
  exact happart

end Apart

/-! ## The focus is in front -/

/-- The focus is on the root surface of the front window, if it is anywhere. -/
def FocusInFront (focus : Option Handle) (table : WindowTable) : Prop :=
  ∀ surface, focus = some surface → ∃ id face,
    table.front? = some id ∧ table.face? id = some face ∧ face.surface = surface

namespace FocusInFront

variable {focus : Option Handle}

/-- If the focus is nowhere, it need not be in front. -/
lemma of_none (table : WindowTable) : FocusInFront none table := fun _ h => by cases h

/-- The focus stays in front if the tables look alike. -/
lemma alike (h : FocusInFront focus before) (ha : Alike before after) :
    FocusInFront focus after := by
  unfold FocusInFront front?
  simp only [ha.face?_eq, ha.stack_eq]
  exact h

/-- The focus stays in front when a window is added: the new one is not stacked. -/
lemma added (h : FocusInFront focus before) (ha : Added id face before after) :
    FocusInFront focus after := by
  intro surface hs
  obtain ⟨front, shown, hfront, hf, he⟩ := h surface hs
  refine ⟨front, shown, ?_, ?_, he⟩
  · rw [front?, ha.stack_eq]
    exact hfront
  · rw [ha.face?_eq, if_neg, hf]
    rintro rfl
    rw [ha.new] at hf
    cases hf

/-- The window that comes to the front gets the focus. -/
lemma fronted (hf : Fronted id face before after) : FocusInFront (some face.surface) after := by
  rintro surface ⟨⟩
  refine ⟨id, face, ?_, ?_, rfl⟩
  · rw [front?, hf.stack_eq]
    rfl
  · rw [hf.face?_eq, if_pos rfl]

/-- The window that is withdrawn does not have the focus. -/
lemma withdrawn (h : FocusInFront focus before) (hw : Withdrawn id before after)
    (hn : ∀ face, before.face? id = some face → focus ≠ some face.surface) :
    FocusInFront focus after := by
  intro surface hs
  obtain ⟨front, shown, hfront, hf, he⟩ := h surface hs
  have hne : front ≠ id := by
    rintro rfl
    exact hn shown hf (hs.trans (congrArg some he.symm))
  refine ⟨front, shown, ?_, by rw [hw.face?_eq hne, hf], he⟩
  unfold front? at hfront ⊢
  cases hstack : before.stack with
  | nil => simp [hstack] at hfront
  | cons head rest =>
    obtain rfl : head = front := by simpa [hstack] using hfront
    rw [hw.stack_eq, hstack, List.erase_cons_tail (by simpa using hne)]
    rfl

end FocusInFront

/-! ## The active window has the focus -/

/-- A mapped window that was last told to be active has the focus, unless it does not count any
more. -/
def ActiveInFocus (except : Face → Bool) (focus : Option Handle) (active : Handle → Option Bool)
    (table : WindowTable) : Prop :=
  ∀ id face, table.face? id = some face → face.mapped = true → except face = false →
    active face.toplevel = some true → focus = some face.surface

namespace ActiveInFocus

variable {except : Face → Bool} {focus : Option Handle} {active : Handle → Option Bool}

/-- The active window keeps the focus if the tables look alike. -/
lemma alike (h : ActiveInFocus except focus active before) (ha : Alike before after) :
    ActiveInFocus except focus active after := by
  unfold ActiveInFocus
  simp only [ha.face?_eq]
  exact h

/-- The active window keeps the focus when a window is added: the new one is not mapped. -/
lemma added (h : ActiveInFocus except focus active before) (ha : Added id face before after) :
    ActiveInFocus except focus active after := by
  intro other found hf hm
  rw [ha.face?_eq] at hf
  split at hf
  · cases hf
    rw [ha.mapped_eq] at hm
    cases hm
  · exact h other found hf hm

/-- The active window keeps the focus when another one is withdrawn, and that one counts no more. -/
lemma withdrawn (h : ActiveInFocus except focus active before) (hw : Withdrawn id before after) :
    ActiveInFocus except focus active after := by
  intro other found hf hm
  by_cases ho : other = id
  · subst ho
    rw [(hw.left hf).1] at hm
    cases hm
  · rw [hw.face?_eq ho] at hf
    exact h other found hf hm

/-- The window that comes to the front gets the focus, and whichever window had the focus is told
that it is not active. -/
lemma fronted {active' : Handle → Option Bool} (h : ActiveInFocus except focus active before)
    (hf : Fronted id face before after)
    (htold : ∀ other found, other ≠ id → before.face? other = some found →
      except found = false → active' found.toplevel = some true →
        active found.toplevel = some true ∧ focus ≠ some found.surface) :
    ActiveInFocus except (some face.surface) active' after := by
  intro other found hfound hm hexcept hactive
  rw [hf.face?_eq] at hfound
  split at hfound <;> rename_i ho
  · cases hfound
    rfl
  · obtain ⟨hold, hfocus⟩ := htold other found ho hfound hexcept hactive
    exact absurd (h other found hfound hm hexcept hold) hfocus

end ActiveInFocus

end WindowTable

end Compositor
