import Compositor.WindowTable
import Mathlib.Data.List.Nodup
import Mathlib.Data.List.Perm.Basic
import Mathlib.Tactic.Common

set_option autoImplicit false

/-!
# Records and focus stack in agreement

A window is told to be mapped twice: by the flag of its record and by its place in the focus stack.
The two are changed by different steps. This module says what each step does to the records and to
the stack, and that the combinations in which the steps are used keep the two in agreement.

A record is found by its toplevel or by its surface by going through all records. Which one is found
could depend on the order in which they are visited. It does not if no two records share the handle
that is searched for.

## Main definitions

* `WindowTable.Agrees` — records are stored under their own numbers, and the stack has just the
  mapped windows, each once.
* `WindowTable.Distinct` — no two records share the handle in a field.

## Main results

* `WindowTable.get?_insert`, `WindowTable.get?_update`, `WindowTable.get?_destroy` — the record of
  every number after a step.
* `WindowTable.mem_stack_push`, `WindowTable.mem_stack_unstack`,
  `WindowTable.stack_moveToFront_perm` — the stack after a step.
* `WindowTable.Agrees.insert`, `WindowTable.Agrees.map`, `WindowTable.Agrees.unmap`,
  `WindowTable.Agrees.update`, `WindowTable.Agrees.moveToFront`, `WindowTable.Agrees.destroy` — the
  combinations keep the agreement.
* `WindowTable.find?_perm` — the order in which records are searched does not matter.
-/

namespace Compositor.WindowTable

variable {table : WindowTable} {id other : WindowId} {window : Window}

/-! ## The records after a step -/

/-- An empty table has no records. -/
@[simp]
lemma get?_empty (id : WindowId) : empty.get? id = none := by
  simp [get?, empty]

/-- An inserted record is found by its number, and the others as before. -/
lemma get?_insert (table : WindowTable) (window : Window) (other : WindowId) :
    (table.insert window).get? other =
      if other = window.id then some window else table.get? other := by
  simp only [get?, insert, Std.ExtTreeMap.getElem?_insert]
  by_cases ho : other = window.id
  · simp [ho]
  · simp [ho, Ne.symm ho]

/-- A change of a window's record is seen in that record alone. -/
lemma get?_update (table : WindowTable) (id : WindowId) (change : Window → Window)
    (other : WindowId) :
    (table.update id change).get? other =
      if other = id then (table.get? id).map change else table.get? other := by
  unfold update
  cases hw : table.get? id with
  | none =>
    by_cases ho : other = id
    · simp [ho, hw]
    · simp [ho]
  | some found =>
    simp only [get?, Std.ExtTreeMap.getElem?_insert]
    by_cases ho : other = id
    · simp [ho]
    · simp [ho, Ne.symm ho]

/-- A destroyed window has no record, and the others keep theirs. -/
lemma get?_destroy (table : WindowTable) (id other : WindowId) :
    (table.destroy id).get? other = if other = id then none else table.get? other := by
  simp only [get?, destroy, unstack, Std.ExtTreeMap.getElem?_erase]
  by_cases ho : other = id
  · simp [ho]
  · simp [ho, Ne.symm ho]

/-- Pushing changes no record. -/
@[simp]
lemma get?_push (table : WindowTable) (id other : WindowId) :
    (table.push id).get? other = table.get? other := by
  unfold push
  split <;> rfl

/-- Taking off the stack changes no record. -/
@[simp]
lemma get?_unstack (table : WindowTable) (id other : WindowId) :
    (table.unstack id).get? other = table.get? other := rfl

/-- Moving to the front changes no record. -/
@[simp]
lemma get?_moveToFront (table : WindowTable) (id other : WindowId) :
    (table.moveToFront id).get? other = table.get? other := by
  unfold moveToFront
  split <;> rfl

/-! ## The stack after a step -/

/-- A record that is inserted is not stacked thereby. -/
@[simp]
lemma stack_insert (table : WindowTable) (window : Window) :
    (table.insert window).stack = table.stack := rfl

/-- A changed record does not change the stack. -/
@[simp]
lemma stack_update (table : WindowTable) (id : WindowId) (change : Window → Window) :
    (table.update id change).stack = table.stack := by
  unfold update
  split <;> rfl

/-- A destroyed window is taken off the stack. -/
@[simp]
lemma stack_destroy (table : WindowTable) (id : WindowId) :
    (table.destroy id).stack = table.stack.erase id := rfl

/-- The check of the stack tells which windows are on it. -/
lemma stacked_iff : table.stacked id = true ↔ id ∈ table.stack :=
  List.contains_iff_mem

/-- Pushing stacks the window that is pushed, and keeps the others. -/
lemma mem_stack_push : other ∈ (table.push id).stack ↔ other ∈ table.stack ∨ other = id := by
  unfold push
  split <;> rename_i hs
  · rw [stacked_iff] at hs
    exact ⟨.inl, fun ho => ho.elim (fun hm => hm) fun he => he ▸ hs⟩
  · simp

/-- Pushing stacks no window twice. -/
lemma nodup_stack_push (h : table.stack.Nodup) : (table.push id).stack.Nodup := by
  unfold push
  split <;> rename_i hs
  · exact h
  · rw [stacked_iff] at hs
    refine h.append (List.nodup_singleton _) ?_
    exact List.disjoint_singleton.2 hs

/-- Taking a window off leaves the others on the stack, if none is stacked twice. -/
lemma mem_stack_unstack (h : table.stack.Nodup) :
    other ∈ (table.unstack id).stack ↔ other ∈ table.stack ∧ other ≠ id := by
  rw [unstack, h.mem_erase_iff, and_comm]

/-- Moving a window to the front only reorders the stack. -/
lemma stack_moveToFront_perm (table : WindowTable) (id : WindowId) :
    (table.moveToFront id).stack.Perm table.stack := by
  unfold moveToFront
  split <;> rename_i hs
  · exact (List.perm_cons_erase (stacked_iff.1 hs)).symm
  · exact List.Perm.refl _

/-! ## Agreement -/

/-- Records are stored under their own numbers, and the stack has just the mapped windows, each
once. -/
structure Agrees (table : WindowTable) : Prop where
  /-- A record is stored under its own number. -/
  id_eq {id : WindowId} {window : Window} : table.get? id = some window → window.id = id
  /-- No window is stacked twice. -/
  stack_nodup : table.stack.Nodup
  /-- The stacked windows are those with a record that says that they are mapped. -/
  mem_stack_iff {id : WindowId} :
    id ∈ table.stack ↔ ∃ window, table.get? id = some window ∧ window.mapped = true

namespace Agrees

/-- The table without windows agrees. -/
lemma empty : Agrees empty where
  id_eq h := by simp at h
  stack_nodup := List.nodup_nil
  mem_stack_iff := by simp [WindowTable.empty, get?]

/-- A window without a record is not stacked. -/
lemma not_mem_stack (a : Agrees table) (h : table.get? id = none) : id ∉ table.stack := by
  intro hm
  obtain ⟨window, hw, -⟩ := a.mem_stack_iff.1 hm
  rw [h] at hw
  cases hw

/-- A new record of an unmapped window keeps the agreement. -/
lemma insert (a : Agrees table) (hn : table.get? window.id = none) (hm : window.mapped = false) :
    Agrees (table.insert window) where
  id_eq {id found} h := by
    rw [get?_insert] at h
    split at h <;> rename_i hi
    · cases h
      exact hi.symm
    · exact a.id_eq h
  stack_nodup := a.stack_nodup
  mem_stack_iff {id} := by
    rw [stack_insert, get?_insert]
    split <;> rename_i hi
    · subst hi
      simp [a.not_mem_stack hn, hm]
    · exact a.mem_stack_iff

/-- A change of a record that keeps its number and flag keeps the agreement. -/
lemma update (a : Agrees table) (id : WindowId) {change : Window → Window}
    (hid : ∀ window, (change window).id = window.id)
    (hmapped : ∀ window, (change window).mapped = window.mapped) :
    Agrees (table.update id change) where
  id_eq {other found} h := by
    rw [get?_update] at h
    split at h <;> rename_i ho
    · obtain ⟨window, hw, rfl⟩ := Option.map_eq_some_iff.1 h
      rw [hid, a.id_eq hw, ho]
    · exact a.id_eq h
  stack_nodup := by
    rw [stack_update]
    exact a.stack_nodup
  mem_stack_iff {other} := by
    rw [stack_update, a.mem_stack_iff, get?_update]
    split <;> rename_i ho
    · subst ho
      simp [hmapped]
    · rfl

/-- Moving a window to the front keeps the agreement. -/
lemma moveToFront (a : Agrees table) (id : WindowId) : Agrees (table.moveToFront id) where
  id_eq h := a.id_eq (by rwa [get?_moveToFront] at h)
  stack_nodup := (stack_moveToFront_perm table id).nodup_iff.2 a.stack_nodup
  mem_stack_iff {other} := by
    rw [(stack_moveToFront_perm table id).mem_iff, a.mem_stack_iff, get?_moveToFront]

/-- Setting the flag of a known window and stacking it keeps the agreement, whether or not it was
mapped before. -/
lemma map (a : Agrees table) (h : table.get? id = some window) :
    Agrees ((table.update id fun found => { found with mapped := true }).push id) where
  id_eq {other found} ho := by
    rw [get?_push, get?_update] at ho
    split at ho <;> rename_i hi
    · rw [h] at ho
      cases ho
      exact (a.id_eq h).trans hi.symm
    · exact a.id_eq ho
  stack_nodup := by
    refine nodup_stack_push ?_
    rw [stack_update]
    exact a.stack_nodup
  mem_stack_iff {other} := by
    rw [mem_stack_push, stack_update, get?_push, get?_update, a.mem_stack_iff]
    split <;> rename_i hi
    · simp [hi, h]
    · simp [hi]

/-- Taking back the flag of a window and unstacking it keeps the agreement, whether or not it was
mapped before, and whether or not it has a record. -/
lemma unmap (a : Agrees table) (id : WindowId) :
    Agrees ((table.update id fun found => { found with mapped := false }).unstack id) where
  id_eq {other found} ho := by
    rw [get?_unstack, get?_update] at ho
    split at ho <;> rename_i hi
    · obtain ⟨window, hw, rfl⟩ := Option.map_eq_some_iff.1 ho
      exact (a.id_eq hw).trans hi.symm
    · exact a.id_eq ho
  stack_nodup := by
    rw [unstack, stack_update]
    exact a.stack_nodup.erase id
  mem_stack_iff {other} := by
    have hnodup : (table.update id fun found => { found with mapped := false }).stack.Nodup := by
      rw [stack_update]
      exact a.stack_nodup
    rw [mem_stack_unstack hnodup, stack_update, get?_unstack, get?_update, a.mem_stack_iff]
    split <;> rename_i hi
    · simp [hi]
    · simp [hi]

/-- Dropping a record together with its place in the stack keeps the agreement. -/
lemma destroy (a : Agrees table) (id : WindowId) : Agrees (table.destroy id) where
  id_eq {other found} h := by
    rw [get?_destroy] at h
    split at h
    · cases h
    · exact a.id_eq h
  stack_nodup := a.stack_nodup.erase id
  mem_stack_iff {other} := by
    rw [stack_destroy, a.stack_nodup.mem_erase_iff, get?_destroy, a.mem_stack_iff]
    split <;> rename_i hi
    · simp [hi]
    · simp [hi]

end Agrees

/-! ## Searching the records -/

variable {field : Window → Handle}

/-- No two records share the handle in a field. -/
def Distinct (field : Window → Handle) (table : WindowTable) : Prop :=
  ∀ id other window found, table.get? id = some window → table.get? other = some found →
    field window = field found → id = other

/-- The windows of a table are those with a record. -/
lemma mem_windows_iff {window : Window} :
    window ∈ table.windows ↔ ∃ id, table.get? id = some window := by
  simp [windows, get?, Std.ExtTreeMap.mem_toList_iff_getElem?_eq_some]

/-- A distinct field has no value twice. -/
lemma Distinct.nodup (h : Distinct field table) : (table.windows.map field).Nodup := by
  unfold windows
  rw [List.map_map, List.nodup_iff_pairwise_ne, List.pairwise_map]
  refine table.records.distinct_keys_toList.imp_of_mem ?_
  rintro ⟨id, window⟩ ⟨other, found⟩ hw hf hne he
  have hsame : id = other := h _ _ _ _ (Std.ExtTreeMap.mem_toList_iff_getElem?_eq_some.1 hw)
    (Std.ExtTreeMap.mem_toList_iff_getElem?_eq_some.1 hf) he
  exact hne (hsame ▸ Std.ReflCmp.compare_self)

/-- Records are distinct in a field if the list of its handles has none twice. -/
lemma Distinct.of_nodup (hid : ∀ id window, table.get? id = some window → window.id = id)
    (h : (table.windows.map field).Nodup) : Distinct field table := by
  intro id other window found hw hf he
  have hsame : window = found :=
    List.inj_on_of_nodup_map h (mem_windows_iff.2 ⟨id, hw⟩) (mem_windows_iff.2 ⟨other, hf⟩) he
  rw [← hid id window hw, ← hid other found hf, hsame]

/-- Whichever way one goes through the records, the same one is found. -/
lemma find?_perm (h : Distinct field table) {order : List Window}
    (hp : order.Perm table.windows) (handle : Handle) :
    order.find? (fun window => field window = handle) =
      table.windows.find? fun window => field window = handle := by
  cases hf : order.find? (fun window => field window = handle) with
  | none =>
    symm
    rw [List.find?_eq_none] at hf ⊢
    exact fun window hm => hf window (hp.mem_iff.2 hm)
  | some found =>
    have hfound : field found = handle := by simpa using List.find?_some hf
    have hmem := hp.mem_iff.1 (List.mem_of_find?_eq_some hf)
    cases ho : table.windows.find? (fun window => field window = handle) with
    | none => exact absurd hfound (by simpa using List.find?_eq_none.1 ho found hmem)
    | some other =>
      have hother : field other = handle := by simpa using List.find?_some ho
      rw [List.inj_on_of_nodup_map h.nodup hmem (List.mem_of_find?_eq_some ho)
        (hfound.trans hother.symm)]

end Compositor.WindowTable
