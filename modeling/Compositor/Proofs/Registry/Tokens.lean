import Compositor.Proofs.Registry.WellFormed
import Mathlib.Data.List.Nodup
import Mathlib.Data.List.Perm.Basic

set_option autoImplicit false

/-!
# The installed listeners as a list

The listeners that a registry would release if it were shut down are all that are installed. Each
step concerns the listeners of one handle, so the list changes by what the step takes out or puts in
there. Nothing is supposed of the tokens: the native side may use one again while it is in use.

## Main definitions

* `elsewhere` — the listeners of all handles but one.

## Main results

* `clear_perm` — the installed listeners are those of one handle and those elsewhere.
* `tokens_append`, `tokens_install` — what a registration puts in.
* `tokens_take`, `tokens_unsubscribe` — what a release takes out.
-/

namespace Compositor.Registry

variable {α : Type}

/-- The tokens are those of the listeners that would be released if the registry were shut down. -/
lemma tokens_eq (registry : Registry α) :
    registry.tokens = registry.clear.1.map Listener.token := rfl

/-- The listeners of all handles but one. -/
def elsewhere (registry : Registry α) (handle : Handle) : List (Listener α) :=
  (registry.listeners.erase handle).toList.flatMap Prod.snd

/-! ## One handle and the others -/

/-- The rows of a table have distinct keys, so none stands twice. -/
lemma nodup_toList (table : Std.ExtTreeMap Handle (List (Listener α))) : table.toList.Nodup := by
  refine Std.ExtTreeMap.distinct_keys_toList.imp ?_
  rintro row _ h rfl
  exact h Std.ReflCmp.compare_self

/-- The rows of a table are that of one handle and those of the others. -/
lemma toList_perm_of_getElem? {table : Std.ExtTreeMap Handle (List (Listener α))} {handle : Handle}
    {listeners : List (Listener α)} (h : table[handle]? = some listeners) :
    table.toList.Perm ((handle, listeners) :: (table.erase handle).toList) := by
  have hnot : (handle, listeners) ∉ (table.erase handle).toList := by
    simp [Std.ExtTreeMap.mem_toList_iff_getElem?_eq_some]
  refine (List.perm_ext_iff_of_nodup (nodup_toList _)
    (List.nodup_cons.2 ⟨hnot, nodup_toList _⟩)).2 ?_
  rintro ⟨other, found⟩
  rw [List.mem_cons, Std.ExtTreeMap.mem_toList_iff_getElem?_eq_some,
    Std.ExtTreeMap.mem_toList_iff_getElem?_eq_some, Std.ExtTreeMap.getElem?_erase]
  by_cases ho : other = handle
  · subst ho
    simp [h, eq_comm]
  · simp [ho, Ne.symm ho]

/-- **The installed listeners** are those of one handle and those elsewhere. -/
theorem clear_perm (registry : Registry α) (handle : Handle) :
    registry.clear.1.Perm (registry.listenersOf handle ++ registry.elsewhere handle) := by
  show (registry.listeners.toList.flatMap Prod.snd).Perm _
  unfold elsewhere listenersOf
  cases h : registry.listeners[handle]? with
  | some listeners => exact (toList_perm_of_getElem? h).flatMap_right Prod.snd
  | none =>
    have hsame : registry.listeners.erase handle = registry.listeners := by
      refine Std.ExtTreeMap.ext_getElem? fun other => ?_
      rw [Std.ExtTreeMap.getElem?_erase]
      split <;> rename_i ho
      · rw [← Std.LawfulEqCmp.eq_of_compare ho, h]
      · rfl
    rw [hsame]
    exact List.Perm.refl _

/-- A step at one handle takes the tokens out that it takes out there. -/
lemma tokens_perm {before after : Registry α} {handle : Handle} {released : List Token}
    (he : after.elsewhere handle = before.elsewhere handle)
    (h : ((before.listenersOf handle).map Listener.token).Perm
      (released ++ (after.listenersOf handle).map Listener.token)) :
    before.tokens.Perm (released ++ after.tokens) := by
  have hbefore := (clear_perm before handle).map Listener.token
  have hafter := (clear_perm after handle).map Listener.token
  rw [← tokens_eq, List.map_append] at hbefore hafter
  have hstep := h.append_right ((before.elsewhere handle).map Listener.token)
  rw [List.append_assoc] at hstep
  rw [he] at hafter
  exact (hbefore.trans hstep).trans (hafter.symm.append_left released)

/-- The listeners elsewhere do not depend on the row that is inserted. -/
lemma elsewhere_insert (registry : Registry α) (handle : Handle) (listeners : List (Listener α)) :
    elsewhere { registry with listeners := registry.listeners.insert handle listeners } handle =
      registry.elsewhere handle := by
  have hsame : (registry.listeners.insert handle listeners).erase handle =
      registry.listeners.erase handle := by
    refine Std.ExtTreeMap.ext_getElem? fun other => ?_
    simp only [Std.ExtTreeMap.getElem?_erase, Std.ExtTreeMap.getElem?_insert]
    split <;> rfl
  unfold elsewhere
  dsimp only
  rw [hsame]

/-- The listeners elsewhere do not depend on the row that is erased. -/
lemma elsewhere_erase (registry : Registry α) (handle : Handle) :
    elsewhere { registry with listeners := registry.listeners.erase handle } handle =
      registry.elsewhere handle := by
  have hsame : (registry.listeners.erase handle).erase handle =
      registry.listeners.erase handle := by
    refine Std.ExtTreeMap.ext_getElem? fun other => ?_
    simp only [Std.ExtTreeMap.getElem?_erase]
    split <;> rfl
  unfold elsewhere
  dsimp only
  rw [hsame]

/-! ## What the steps do -/

variable {before after registry : Registry α} {handle : Handle} {signal : Signal}
  {callback : Callback α}

/-- The tokens are read off the listeners. -/
lemma tokens_of_listeners_eq (h : after.listeners = before.listeners) :
    after.tokens = before.tokens := by
  unfold tokens
  rw [h]

/-- An empty registry has no tokens. -/
@[simp]
lemma tokens_empty : (empty : Registry α).tokens = [] := by
  simp [tokens, empty]

/-- No token is left once the tables are cleared. -/
@[simp]
lemma tokens_clear (registry : Registry α) : registry.clear.2.tokens = [] := by
  simp [tokens, clear]

/-- A further subscriber does not need another listener. -/
lemma tokens_append (h : before.append? handle signal callback = some after) :
    before.tokens.Perm after.tokens := by
  have hlisteners := listenersOf_append h handle
  rw [if_pos rfl] at hlisteners
  have helsewhere : after.elsewhere handle = before.elsewhere handle := by
    unfold append? at h
    split at h
    · cases h
    · cases h
      exact elsewhere_insert before handle _
  have hperm : ((before.listenersOf handle).map Listener.token).Perm
      ([] ++ (after.listenersOf handle).map Listener.token) := by
    rw [hlisteners]
    simp [Function.comp_def]
  exact tokens_perm helsewhere hperm

/-- A new listener is installed besides the others. -/
lemma tokens_install (registry : Registry α) (handle : Handle) (signal : Signal) (token : Token)
    (callback : Callback α) :
    (registry.install handle signal token callback).tokens.Perm (token :: registry.tokens) := by
  have hperm : (((registry.install handle signal token callback).listenersOf handle).map
      Listener.token).Perm ([token] ++ (registry.listenersOf handle).map Listener.token) := by
    rw [listenersOf_install, if_pos rfl, List.map_append]
    exact List.perm_append_comm
  exact tokens_perm (elsewhere_insert registry handle _).symm hperm

/-- The listeners of a handle that are taken are no longer installed. -/
lemma tokens_take (registry : Registry α) (handle : Handle) : registry.tokens.Perm
    ((registry.take handle).1.map Listener.token ++ (registry.take handle).2.tokens) := by
  refine tokens_perm (elsewhere_erase registry handle) ?_
  rw [listenersOf_take, if_pos rfl, fst_take]
  simp

/-- Listeners for other signals keep all their subscribers. -/
lemma filterMap_drop?_eq_self {listeners : List (Listener α)} {id : SubscriptionId}
    (h : ∀ listener ∈ listeners, listener.signal ≠ signal) :
    listeners.filterMap (Listener.drop? signal id) = listeners := by
  induction listeners with
  | nil => rfl
  | cons listener rest ih =>
    have hkept : Listener.drop? signal id listener = some listener :=
      if_neg (h listener (List.mem_cons_self ..))
    rw [List.filterMap_cons_some hkept, ih fun other ho => h other (List.mem_cons_of_mem _ ho)]

/-- If a listener is handed back, it is no longer installed; all others still are.

**Proof sketch.** There is one listener for the signal of the subscriber. It is handed back, or it
stays under its token; the others of the handle are left alone. -/
lemma tokens_unsubscribe (c : Coherent before) {id : SubscriptionId} {released : Option Token}
    (h : before.unsubscribe? id = some (released, after)) :
    before.tokens.Perm (released.toList ++ after.tokens) := by
  obtain ⟨handle, listener, hm, hrow, hl⟩ := c.exists_of_unsubscribe? h
  have helsewhere : after.elsewhere handle = before.elsewhere handle := by
    have hafter := h
    rw [unsubscribe?_eq_some hrow hl] at hafter
    cases hafter
    unfold setListeners
    dsimp only
    split
    · exact elsewhere_erase before handle
    · exact elsewhere_insert before handle _
  refine tokens_perm helsewhere ?_
  have hsignals := c.signals_nodup handle
  rw [listenersOf_unsubscribe hrow hl h, if_pos rfl, released_unsubscribe hrow hl h]
  obtain ⟨left, right, hsplit⟩ := List.append_of_mem hm
  rw [hsplit] at hsignals ⊢
  rw [List.map_append, List.map_cons, List.nodup_middle, List.nodup_cons, List.mem_append,
    not_or] at hsignals
  have hleft : ∀ other ∈ left, other.signal ≠ listener.signal := fun other ho he =>
    hsignals.1.1 (he ▸ List.mem_map_of_mem ho)
  have hright : ∀ other ∈ right, other.signal ≠ listener.signal := fun other ho he =>
    hsignals.1.2 (he ▸ List.mem_map_of_mem ho)
  have hdrop : Listener.drop? listener.signal id listener = Listener.without? listener id :=
    if_pos rfl
  rw [List.filterMap_append, filterMap_drop?_eq_self hleft, List.filterMap_cons, hdrop,
    filterMap_drop?_eq_self hright]
  cases hw : Listener.without? listener id with
  | none =>
    simp only [↓reduceIte, Option.toList_some, List.map_append, List.map_cons]
    exact List.perm_middle
  | some kept =>
    have htoken : kept.token = listener.token := (Listener.without?_eq_some hw).2.1
    simp [htoken]

end Compositor.Registry
