import Compositor.Proofs.Registry.Coherent
import Mathlib.Data.List.Count

set_option autoImplicit false

/-!
# The index of the tokens

A registry finds the pair of a native listener by the token that the native side chose for it. The
index is right as long as the native side does not choose a token that is still in use. This module
says so, and counts: what a step hands back to be disconnected is just what it takes out of the
index.

## Main definitions

* `Installed` — what the listeners say of a token.
* `Indexed` — the targets of the tokens are those of the listeners.
* `installs` — how often a token is in the index: once or never.

## Main results

* `Indexed.append`, `Indexed.install`, `Indexed.take`, `Indexed.unsubscribe`, `Indexed.clear` — the
  steps keep the tokens indexed.
* `count_take`, `count_unsubscribe`, `count_clear` — a token that is handed back leaves the index.
-/

namespace Compositor.Registry

variable {α : Type}

/-- A pair has a listener of the given name. -/
def Installed (registry : Registry α) (token : Token) (handle : Handle) (signal : Signal) : Prop :=
  ∃ listener ∈ registry.listenersOf handle, listener.token = token ∧ listener.signal = signal

/-- The targets of the tokens are those of the listeners. -/
def Indexed (registry : Registry α) : Prop :=
  ∀ token handle signal,
    registry.target? token = some (handle, signal) ↔ registry.Installed token handle signal

/-- How often a token is in the index. -/
def installs (registry : Registry α) (token : Token) : ℕ :=
  if (registry.target? token).isSome then 1 else 0

/-! ## What the steps do to the listener of a token -/

section Views

variable {before after : Registry α} {handle : Handle} {signal : Signal} {callback : Callback α}

/-- Adding a subscriber installs no listener. -/
lemma installed_append (h : before.append? handle signal callback = some after)
    {token : Token} {other : Handle} {kind : Signal} :
    after.Installed token other kind ↔ before.Installed token other kind := by
  unfold Installed
  rw [listenersOf_append h]
  by_cases ho : other = handle
  · subst ho
    simp
  · simp [ho]

/-- Installing a listener installs it, and leaves the others. -/
lemma installed_install {token new : Token} {other : Handle} {kind : Signal} :
    (before.install handle signal new callback).Installed token other kind ↔
      before.Installed token other kind ∨ other = handle ∧ kind = signal ∧ token = new := by
  unfold Installed
  rw [listenersOf_install]
  by_cases ho : other = handle
  · subst ho
    simp only [↓reduceIte, List.mem_append, List.mem_singleton, true_and]
    constructor
    · rintro ⟨listener, hm | rfl, ht, hk⟩
      · exact .inl ⟨listener, hm, ht, hk⟩
      · exact .inr ⟨hk.symm, ht.symm⟩
    · rintro (⟨listener, hm, ht, hk⟩ | ⟨rfl, rfl⟩)
      · exact ⟨listener, .inl hm, ht, hk⟩
      · exact ⟨_, .inr rfl, rfl, rfl⟩
  · simp [ho]

/-- Taking the listeners of a handle leaves those of the others installed. -/
lemma installed_take {token : Token} {other : Handle} {kind : Signal} :
    (before.take handle).2.Installed token other kind ↔
      before.Installed token other kind ∧ other ≠ handle := by
  unfold Installed
  rw [listenersOf_take]
  by_cases ho : other = handle <;> simp [ho]

/-- Removing a subscriber leaves every listener installed but the one that is handed back. -/
lemma Coherent.installed_or_unsubscribe (c : Coherent before) {id : SubscriptionId}
    {released : Option Token} (h : before.unsubscribe? id = some (released, after))
    {token : Token} {place : Handle} {kind : Signal} (hi : before.Installed token place kind) :
    after.Installed token place kind ∨ released = some token := by
  obtain ⟨handle, listener, hm, hrow, hl⟩ := c.exists_of_unsubscribe? h
  obtain ⟨old, ho, rfl, rfl⟩ := hi
  unfold Installed
  rw [listenersOf_unsubscribe hrow hl h]
  split <;> rename_i hp
  · subst hp
    cases hd : Listener.drop? listener.signal id old with
    | some left =>
      obtain ⟨hsignal, htoken, -⟩ := Listener.drop?_eq_some hd
      exact .inl ⟨left, List.mem_filterMap.2 ⟨old, ho, hd⟩, htoken, hsignal⟩
    | none =>
      unfold Listener.drop? at hd
      split at hd
      · rename_i hs
        obtain rfl := List.inj_on_of_nodup_map (c.signals_nodup place) ho hm hs
        exact .inr (by rw [released_unsubscribe hrow hl h, if_pos hd])
      · cases hd
  · exact .inl ⟨old, ho, rfl, rfl⟩

end Views

namespace Indexed

variable {registry before after : Registry α} {handle : Handle} {signal : Signal}
  {callback : Callback α}

/-- The empty registry has an empty index. -/
lemma empty : Indexed (empty : Registry α) := by
  intro token handle signal
  simp [Installed]

/-- A listener of an indexed registry is the target of its token. -/
lemma target?_of_mem (i : Indexed registry) {listener : Listener α}
    (h : listener ∈ registry.listenersOf handle) :
    registry.target? listener.token = some (handle, listener.signal) :=
  (i _ _ _).2 ⟨listener, h, rfl, rfl⟩

/-- The listeners have distinct tokens. -/
lemma token_unique (i : Indexed registry) (c : Coherent registry) {other : Handle}
    {first second : Listener α} (hf : first ∈ registry.listenersOf handle)
    (hs : second ∈ registry.listenersOf other) (ht : first.token = second.token) :
    handle = other ∧ first = second := by
  have htarget := i.target?_of_mem hf
  rw [ht, i.target?_of_mem hs, Option.some.injEq, Prod.mk.injEq] at htarget
  obtain ⟨rfl, hsignal⟩ := htarget
  exact ⟨rfl, List.inj_on_of_nodup_map (c.signals_nodup other) hf hs hsignal.symm⟩

/-- The listeners of one handle have distinct tokens. -/
lemma tokens_nodup (i : Indexed registry) (c : Coherent registry) (handle : Handle) :
    ((registry.listenersOf handle).map Listener.token).Nodup :=
  (c.signals_nodup handle).of_map.map_on fun _ hf _ hs ht => (i.token_unique c hf hs ht).2

/-! ## The steps keep the tokens indexed -/

/-- Appending a subscriber keeps the tokens indexed. -/
lemma append (i : Indexed before) (h : before.append? handle signal callback = some after) :
    Indexed after := by
  intro token other kind
  rw [target?, (marks_append h).2.2.2.2, ← target?, i, installed_append h]

/-- Installing a listener under a token that is not in use keeps the tokens indexed. -/
lemma install (i : Indexed registry) {token : Token} (hfree : registry.target? token = none) :
    Indexed (registry.install handle signal token callback) := by
  intro other place kind
  rw [target?_install, installed_install]
  by_cases ho : other = token
  · subst ho
    have hn : ¬ registry.Installed other place kind := by
      rw [← i, hfree]
      exact nofun
    simp [hn, eq_comm]
  · simp [ho, i other place kind]

/-- Taking the listeners of a handle keeps the tokens indexed. -/
lemma take (i : Indexed registry) (handle : Handle) : Indexed (registry.take handle).2 := by
  intro token other kind
  rw [target?_take, installed_take]
  split <;> rename_i ht
  · obtain ⟨listener, hl, rfl⟩ := List.mem_map.1 ht
    constructor
    · exact nofun
    · rintro ⟨hi, hne⟩
      -- the token of a listener of `handle` has `handle` as its target
      rw [← i, i.target?_of_mem hl] at hi
      cases hi
      exact absurd rfl hne
  · rw [i]
    refine ⟨fun hi => ⟨hi, ?_⟩, fun hi => hi.1⟩
    rintro rfl
    obtain ⟨listener, hl, rfl, -⟩ := hi
    exact ht (List.mem_map_of_mem hl)

/-- Retiring a handle keeps the tokens indexed. -/
lemma retire (i : Indexed registry) (handle : Handle) : Indexed (registry.retire handle).2 :=
  i.take handle

/-- Removing a subscriber takes at most the listener that is handed back. -/
lemma installed_unsubscribe (i : Indexed before) (c : Coherent before) {id : SubscriptionId}
    {released : Option Token} (h : before.unsubscribe? id = some (released, after))
    {token : Token} {place : Handle} {kind : Signal} :
    after.Installed token place kind ↔
      before.Installed token place kind ∧ released ≠ some token := by
  obtain ⟨handle, listener, hm, hrow, hl⟩ := c.exists_of_unsubscribe? h
  have hreleased := released_unsubscribe hrow hl h
  -- a released token is that of `listener`, of which nothing is left
  have hgone : released = some token →
      Listener.without? listener id = none ∧ listener.token = token := by
    intro hr
    rw [hr] at hreleased
    split at hreleased
    · rename_i hw
      exact ⟨hw, (Option.some.inj hreleased).symm⟩
    · cases hreleased
  constructor
  · unfold Installed
    rw [listenersOf_unsubscribe hrow hl h]
    split <;> rename_i hp
    · subst hp
      rintro ⟨left, hmem, rfl, rfl⟩
      obtain ⟨old, ho, hd⟩ := List.mem_filterMap.1 hmem
      obtain ⟨hsignal, htoken, -⟩ := Listener.drop?_eq_some hd
      refine ⟨⟨old, ho, htoken.symm, hsignal.symm⟩, fun hr => ?_⟩
      obtain ⟨hw, ht⟩ := hgone hr
      obtain ⟨-, rfl⟩ := i.token_unique c ho hm (htoken.symm.trans ht.symm)
      simp [Listener.drop?, hw] at hd
    · rintro ⟨old, ho, ht, hs⟩
      refine ⟨⟨old, ho, ht, hs⟩, fun hr => ?_⟩
      exact hp (i.token_unique c ho hm (ht.trans (hgone hr).2.symm)).1
  · rintro ⟨hi, hr⟩
    exact (c.installed_or_unsubscribe h hi).resolve_right hr

/-- Removing a subscriber keeps the tokens indexed. -/
lemma unsubscribe (i : Indexed before) (c : Coherent before) {id : SubscriptionId}
    {released : Option Token} (h : before.unsubscribe? id = some (released, after)) :
    Indexed after := by
  intro token place kind
  obtain ⟨handle, listener, hm, hrow, hl⟩ := c.exists_of_unsubscribe? h
  rw [i.installed_unsubscribe c h, target?_unsubscribe hrow hl h]
  split
  · rename_i hr
    simp [hr]
  · rename_i hr
    simp [hr, i token place kind]

/-- Shutting down leaves an empty index. -/
lemma clear (registry : Registry α) : Indexed registry.clear.2 := by
  intro token handle signal
  simp [Installed]

/-! ## What is handed back leaves the index -/

/-- The listeners of a handle that is released leave the index. -/
lemma count_take (i : Indexed registry) (c : Coherent registry) (handle : Handle)
    (token : Token) :
    ((registry.listenersOf handle).map Listener.token).count token +
      (registry.take handle).2.installs token = registry.installs token := by
  unfold installs
  rw [target?_take]
  by_cases ht : token ∈ (registry.listenersOf handle).map Listener.token
  · obtain ⟨listener, hl, rfl⟩ := List.mem_map.1 ht
    rw [if_pos ht, List.count_eq_one_of_mem (i.tokens_nodup c handle) ht, i.target?_of_mem hl]
    rfl
  · rw [if_neg ht, List.count_eq_zero_of_not_mem ht, Nat.zero_add]

/-- The listener that loses its last subscriber leaves the index. -/
lemma count_unsubscribe (i : Indexed before) (c : Coherent before) {id : SubscriptionId}
    {released : Option Token} (h : before.unsubscribe? id = some (released, after))
    (token : Token) :
    released.toList.count token + after.installs token = before.installs token := by
  obtain ⟨handle, listener, hm, hrow, hl⟩ := c.exists_of_unsubscribe? h
  unfold installs
  rw [target?_unsubscribe hrow hl h]
  by_cases hr : released = some token
  · have hreleased := released_unsubscribe hrow hl h
    rw [hr] at hreleased
    split at hreleased
    · cases hreleased
      simp [hr, i.target?_of_mem hm]
    · cases hreleased
  · cases released with
    | none => simp
    | some other =>
      have hne : other ≠ token := fun he => hr (by rw [he])
      simp [hne]

/-- The listeners of all handles have distinct tokens. -/
lemma tokens_clear_nodup (i : Indexed registry) (c : Coherent registry) :
    (registry.clear.1.map Listener.token).Nodup := by
  unfold Registry.clear
  rw [List.map_flatMap, List.nodup_flatMap]
  constructor
  · intro row hr
    rw [← listenersOf_of_mem_toList hr]
    exact i.tokens_nodup c row.1
  · refine registry.listeners.distinct_keys_toList.imp_of_mem ?_
    intro first second hf hs hne token htf hts
    obtain ⟨listener, hl, rfl⟩ := List.mem_map.1 htf
    obtain ⟨other, ho, ht⟩ := List.mem_map.1 hts
    rw [← listenersOf_of_mem_toList hf] at hl
    rw [← listenersOf_of_mem_toList hs] at ho
    exact hne (Std.compare_eq_iff_eq.2 (i.token_unique c hl ho ht.symm).1)

/-- Every listener leaves the index of a registry that is shut down. -/
lemma count_clear (i : Indexed registry) (c : Coherent registry) (token : Token) :
    (registry.clear.1.map Listener.token).count token + registry.clear.2.installs token =
      registry.installs token := by
  have hnodup := i.tokens_clear_nodup c
  have hafter : registry.clear.2.installs token = 0 := by simp [installs]
  rw [hafter, Nat.add_zero]
  by_cases ht : token ∈ registry.clear.1.map Listener.token
  · obtain ⟨listener, hl, rfl⟩ := List.mem_map.1 ht
    obtain ⟨handle, hm⟩ := mem_fst_clear.1 hl
    rw [List.count_eq_one_of_mem hnodup ht, installs, i.target?_of_mem hm]
    rfl
  · rw [List.count_eq_zero_of_not_mem ht, installs]
    cases htarget : registry.target? token with
    | none => rfl
    | some place =>
      obtain ⟨listener, hl, rfl, -⟩ := (i _ _ _).1 htarget
      exact absurd (List.mem_map_of_mem (mem_fst_clear.2 ⟨_, hl⟩)) ht

end Indexed

end Compositor.Registry
