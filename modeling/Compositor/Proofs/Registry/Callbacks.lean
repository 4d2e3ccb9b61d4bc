import Compositor.Proofs.Registry.Roster

set_option autoImplicit false

/-!
# The callbacks of a signal

All that a dispatch sees of a registry are the callbacks of its pair. This module says what each
step of the tables does to the callbacks of every pair, and that the listeners of a handle can be
told from them.

## Main results

* `callbacks_append`, `callbacks_install` — a registration adds one callback to one pair.
* `callbacks_take`, `callbacks_retire`, `callbacks_clear` — a release leaves none.
* `take_take` — a release is complete.
* `Coherent.signals_perm` — the signals of a handle's listeners are those with callbacks.
-/

namespace Compositor

namespace Registry

variable {α : Type} {registry before after : Registry α} {handle : Handle} {signal : Signal}
  {callback : Callback α}

/-- An empty registry calls nothing back. -/
@[simp]
lemma callbacks_empty (handle : Handle) (signal : Signal) :
    (empty : Registry α).callbacks handle signal = [] := by
  simp [callbacks, subscribersOf, listener?]

/-- A further subscriber comes last among the callbacks of its pair. -/
lemma callbacks_append (h : before.append? handle signal callback = some after) (other : Handle)
    (kind : Signal) :
    after.callbacks other kind =
      before.callbacks other kind ++ if other = handle ∧ kind = signal then [callback] else [] := by
  rw [callbacks, subscribersOf_append h, List.map_append, ← callbacks]
  split <;> rfl

/-- The first subscriber of a pair is its only callback. -/
lemma callbacks_install (hn : registry.append? handle signal callback = none) (token : Token)
    (other : Handle) (kind : Signal) :
    (registry.install handle signal token callback).callbacks other kind =
      registry.callbacks other kind ++
        if other = handle ∧ kind = signal then [callback] else [] := by
  rw [callbacks, subscribersOf_install hn, List.map_append, ← callbacks]
  split <;> rfl

/-- Taking the listeners of a handle takes its callbacks, and no others. -/
lemma callbacks_take (registry : Registry α) (handle other : Handle) (kind : Signal) :
    (registry.take handle).2.callbacks other kind =
      if other = handle then [] else registry.callbacks other kind := by
  rw [callbacks, subscribersOf_take]
  split <;> rfl

/-- Retiring a handle takes its callbacks, and no others. -/
lemma callbacks_retire (registry : Registry α) (handle other : Handle) (kind : Signal) :
    (registry.retire handle).2.callbacks other kind =
      if other = handle then [] else registry.callbacks other kind :=
  callbacks_take _ _ _ _

/-- Nothing is called back once the tables are cleared. -/
@[simp]
lemma callbacks_clear (registry : Registry α) (handle : Handle) (signal : Signal) :
    registry.clear.2.callbacks handle signal = [] := by
  simp [callbacks, subscribersOf, listener?]

/-! ## Listeners -/

/-- There is nothing to release for a handle without a row. -/
lemma take_of_isTracked_eq_false (h : registry.isTracked handle = false) :
    registry.take handle = ([], registry) := by
  have hrow : registry.listeners[handle]? = none := by
    rw [isTracked, Std.ExtTreeMap.contains_eq_isSome_getElem?] at h
    exact Option.not_isSome_iff_eq_none.1 (by simp [h])
  have hnil : registry.listenersOf handle = [] := by
    rw [listenersOf, hrow]
    rfl
  have herase : registry.listeners.erase handle = registry.listeners :=
    Std.ExtTreeMap.ext_getElem? fun other => by
      rw [Std.ExtTreeMap.getElem?_erase]
      split <;> rename_i ho
      · rw [← Std.LawfulEqOrd.eq_of_compare ho, hrow]
      · rfl
  unfold take
  dsimp only
  rw [hnil, herase]
  rfl

/-- All listeners of a handle are released at once. -/
lemma take_take (registry : Registry α) (handle : Handle) :
    (registry.take handle).2.take handle = ([], (registry.take handle).2) :=
  take_of_isTracked_eq_false (by simp [isTracked_take])

/-- A handle has a listener for a signal exactly if the pair has a callback. -/
lemma Coherent.mem_signals_iff (c : Coherent registry) :
    signal ∈ (registry.listenersOf handle).map Listener.signal ↔
      registry.callbacks handle signal ≠ [] := by
  constructor
  · intro hm
    obtain ⟨listener, hl, rfl⟩ := List.mem_map.1 hm
    rw [callbacks, c.subscribersOf_of_mem hl, ne_eq, List.map_eq_nil_iff]
    exact c.subscribers_ne_nil hl
  · intro hne
    by_contra hm
    refine hne ?_
    rw [callbacks, subscribersOf_eq_nil fun listener hl hs => hm (List.mem_map.2 ⟨listener, hl, hs⟩)]
    rfl

/-- The signals of a handle's listeners, in some order, are the distinct ones with callbacks. -/
lemma Coherent.signals_perm (c : Coherent registry) {signals : List Signal}
    (hnodup : signals.Nodup)
    (h : ∀ signal, signal ∈ signals ↔ registry.callbacks handle signal ≠ []) :
    ((registry.listenersOf handle).map Listener.signal).Perm signals :=
  (List.perm_ext_iff_of_nodup (c.signals_nodup handle) hnodup).2 fun signal => by
    rw [c.mem_signals_iff, h]

/-- A pair with a callback has a row. -/
lemma Coherent.isTracked_of_callbacks (c : Coherent registry)
    (h : registry.callbacks handle signal ≠ []) : registry.isTracked handle = true := by
  obtain ⟨listener, hl, -⟩ := List.mem_map.1 (c.mem_signals_iff.2 h)
  exact isTracked_of_mem hl

/-- A registry with a callback is not shut down. -/
lemma Coherent.isShutDown_eq_false (c : Coherent registry)
    (h : registry.callbacks handle signal ≠ []) : registry.isShutDown = false := by
  cases hs : registry.isShutDown with
  | false => rfl
  | true =>
    have ht := c.isTracked_of_callbacks h
    rw [isTracked, (c.tables_of_isShutDown hs).1] at ht
    simp at ht

end Registry

end Compositor
