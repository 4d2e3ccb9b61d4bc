import Compositor.Proofs.Registry.Steps

set_option autoImplicit false

/-!
# Coherent tables

The tables of a registry repeat one another: the row of a subscriber can be read off the listeners,
and so can most of what the marks say. This module says what it means for them to agree, and that
each step keeps the agreement. Nothing here depends on the native side; the tokens it hands out are
treated apart.

## Main definitions

* `Subscribed` — what the listeners say of a subscriber.
* `Coherent` — rows, subscribers and marks agree.

## Main results

* `Coherent.append`, `Coherent.install`, `Coherent.revive` — the steps of a registration and of an
  announcement keep the tables coherent.
* `Coherent.take`, `Coherent.retire`, `Coherent.unsubscribe`, `Coherent.clear` — so do the steps
  that release listeners.
-/

namespace Compositor.Registry

variable {α : Type}

/-- Some listener of a pair has a subscriber of the given name. -/
def Subscribed (registry : Registry α) (id : SubscriptionId) (handle : Handle)
    (signal : Signal) : Prop :=
  ∃ listener ∈ registry.listenersOf handle, listener.signal = signal ∧
    ∃ subscriber ∈ listener.subscribers, subscriber.id = id

/-- The tables agree on handles, subscribers and marks. -/
structure Coherent (registry : Registry α) : Prop where
  /-- A handle with a row has a listener. -/
  listenersOf_ne_nil {handle : Handle} :
    registry.isTracked handle = true → registry.listenersOf handle ≠ []
  /-- The listeners of a handle have distinct signals. -/
  signals_nodup (handle : Handle) :
    ((registry.listenersOf handle).map Listener.signal).Nodup
  /-- A listener has a subscriber. -/
  subscribers_ne_nil {handle : Handle} {listener : Listener α} :
    listener ∈ registry.listenersOf handle → listener.subscribers ≠ []
  /-- The subscribers with a row are those of the listeners. -/
  subscriptions_eq_some_iff {id : SubscriptionId} {handle : Handle} {signal : Signal} :
    registry.subscriptions[id]? = some (handle, signal) ↔ registry.Subscribed id handle signal
  /-- The names of subscribers are used up. -/
  id_lt {handle : Handle} {listener : Listener α} {subscriber : Subscriber α} :
    listener ∈ registry.listenersOf handle → subscriber ∈ listener.subscribers →
      subscriber.id.number < registry.nextSubscription
  /-- The subscribers of a listener are in the order of their names. -/
  ids_increasing {handle : Handle} {listener : Listener α} :
    listener ∈ registry.listenersOf handle →
      listener.subscribers.Pairwise fun first second => first.id.number < second.id.number
  /-- A handle with a row is not retired. -/
  not_isRetired {handle : Handle} :
    registry.isTracked handle = true → registry.isRetired handle = false
  /-- A registry that is shut down has no rows. -/
  tables_of_isShutDown :
    registry.isShutDown = true →
      registry.listeners = ∅ ∧ registry.byToken = ∅ ∧ registry.subscriptions = ∅

/-! ## What the steps do to subscribers -/

section Views

variable {before after : Registry α} {handle : Handle} {signal : Signal} {callback : Callback α}

/-- Extending a listener gives it the new subscriber if it is that of the signal, and no other. -/
lemma Listener.mem_subscribers_extend {subscriber new : Subscriber α} {listener : Listener α} :
    subscriber ∈ (Listener.extend signal new listener).subscribers ↔
      subscriber ∈ listener.subscribers ∨ listener.signal = signal ∧ subscriber = new := by
  unfold Listener.extend
  split <;> rename_i hs <;> simp [hs]

/-- Adding a subscriber subscribes the next name to its pair, and changes no other subscription. -/
lemma subscribed_append (h : before.append? handle signal callback = some after)
    {id : SubscriptionId} {other : Handle} {kind : Signal} :
    after.Subscribed id other kind ↔ before.Subscribed id other kind ∨
      other = handle ∧ kind = signal ∧ id = before.nextId := by
  obtain ⟨⟨found, hf⟩, -⟩ := append?_eq_some h
  obtain ⟨hfm, hfs⟩ := mem_of_listener? hf
  unfold Subscribed
  rw [listenersOf_append h]
  by_cases ho : other = handle
  · subst ho
    simp only [↓reduceIte, List.mem_map, exists_exists_and_eq_and, Listener.signal_extend,
      Listener.mem_subscribers_extend, true_and]
    constructor
    · rintro ⟨listener, hm, hk, subscriber, hx | ⟨hs, rfl⟩, hid⟩
      · exact .inl ⟨listener, hm, hk, subscriber, hx, hid⟩
      · exact .inr ⟨hk.symm.trans hs, hid.symm⟩
    · rintro (⟨listener, hm, hk, subscriber, hx, hid⟩ | ⟨rfl, rfl⟩)
      · exact ⟨listener, hm, hk, subscriber, .inl hx, hid⟩
      · exact ⟨found, hfm, hfs, _, .inr ⟨hfs, rfl⟩, rfl⟩
  · simp [ho]

/-- Installing a listener subscribes the next name to its pair, and changes no other
subscription. -/
lemma subscribed_install {token : Token} {id : SubscriptionId} {other : Handle} {kind : Signal} :
    (before.install handle signal token callback).Subscribed id other kind ↔
      before.Subscribed id other kind ∨ other = handle ∧ kind = signal ∧ id = before.nextId := by
  unfold Subscribed
  rw [listenersOf_install]
  by_cases ho : other = handle
  · subst ho
    simp only [↓reduceIte, List.mem_append, List.mem_singleton, true_and]
    constructor
    · rintro ⟨listener, hm | rfl, hk, subscriber, hx, hid⟩
      · exact .inl ⟨listener, hm, hk, subscriber, hx, hid⟩
      · obtain rfl := List.mem_singleton.1 hx
        exact .inr ⟨hk.symm, hid.symm⟩
    · rintro (⟨listener, hm, hk, subscriber, hx, hid⟩ | ⟨rfl, rfl⟩)
      · exact ⟨listener, .inl hm, hk, subscriber, hx, hid⟩
      · exact ⟨_, .inr rfl, rfl, _, List.mem_singleton.2 rfl, rfl⟩
  · simp [ho]

/-- Taking the listeners of a handle ends just the subscriptions of the handle. -/
lemma subscribed_take {id : SubscriptionId} {other : Handle} {kind : Signal} :
    (before.take handle).2.Subscribed id other kind ↔
      before.Subscribed id other kind ∧ other ≠ handle := by
  unfold Subscribed
  rw [listenersOf_take]
  by_cases ho : other = handle <;> simp [ho]

end Views

/-! ## The empty registry -/

namespace Coherent

/-- The empty registry is coherent. -/
lemma empty : Coherent (empty : Registry α) where
  listenersOf_ne_nil h := by simp at h
  signals_nodup handle := by simp
  subscribers_ne_nil h := by simp at h
  subscriptions_eq_some_iff := by simp [Subscribed]
  id_lt h := by simp at h
  ids_increasing h := by simp at h
  not_isRetired h := by simp at h
  tables_of_isShutDown h := by cases h

variable {registry before after : Registry α} {handle : Handle} {signal : Signal}
  {callback : Callback α}

/-! ## Registration -/

/-- The next name has no subscriber yet. -/
lemma not_subscribed_nextId (c : Coherent before) (other : Handle) (kind : Signal) :
    ¬ before.Subscribed before.nextId other kind := by
  rintro ⟨listener, hl, -, subscriber, hx, hid⟩
  have hlt := c.id_lt hl hx
  rw [hid] at hlt
  exact Nat.lt_irrefl _ hlt

/-- Enrolling adds the row of the next name. -/
lemma subscriptions_enrol_eq_some_iff (c : Coherent before) {id : SubscriptionId}
    {other : Handle} {kind : Signal} :
    (before.enrol handle signal).subscriptions[id]? = some (other, kind) ↔
      before.Subscribed id other kind ∨
        other = handle ∧ kind = signal ∧ id = before.nextId := by
  rw [subscriptions_enrol]
  by_cases hid : id = before.nextId
  · subst hid
    simp [c.not_subscribed_nextId, eq_comm]
  · simp [hid, c.subscriptions_eq_some_iff]

/-- Appending a subscriber to an admitted handle keeps the tables coherent. -/
lemma append (c : Coherent before) (hc : before.check handle = .ok ())
    (h : before.append? handle signal callback = some after) : Coherent after where
  listenersOf_ne_nil {other} ho := by
    obtain ⟨⟨found, hf⟩, -⟩ := append?_eq_some h
    rw [listenersOf_append h]
    split
    · exact List.ne_nil_of_mem (List.mem_map_of_mem (mem_of_listener? hf).1)
    · rename_i hne
      rw [isTracked_append h] at ho
      exact c.listenersOf_ne_nil (by simpa [hne] using ho)
  signals_nodup other := by
    rw [listenersOf_append h]
    split
    · simpa [Function.comp_def] using c.signals_nodup handle
    · exact c.signals_nodup other
  subscribers_ne_nil {other listener} hl := by
    rw [listenersOf_append h] at hl
    split at hl
    · obtain ⟨old, hold, rfl⟩ := List.mem_map.1 hl
      obtain ⟨x, hx⟩ := List.exists_mem_of_ne_nil _ (c.subscribers_ne_nil hold)
      exact List.ne_nil_of_mem (Listener.mem_subscribers_extend.2 (.inl hx))
    · exact c.subscribers_ne_nil hl
  subscriptions_eq_some_iff {id other kind} := by
    rw [(marks_append h).2.2.2.1, c.subscriptions_enrol_eq_some_iff, subscribed_append h]
  id_lt {other listener subscriber} hl hx := by
    rw [(marks_append h).2.2.1]
    rw [listenersOf_append h] at hl
    split at hl
    · obtain ⟨old, hold, rfl⟩ := List.mem_map.1 hl
      rcases Listener.mem_subscribers_extend.1 hx with hx | ⟨-, rfl⟩
      · exact Nat.lt_succ_of_lt (c.id_lt hold hx)
      · exact Nat.lt_succ_self _
    · exact Nat.lt_succ_of_lt (c.id_lt hl hx)
  ids_increasing {other listener} hl := by
    rw [listenersOf_append h] at hl
    split at hl
    · obtain ⟨old, hold, rfl⟩ := List.mem_map.1 hl
      unfold Listener.extend
      split
      · refine List.pairwise_append.2 ⟨c.ids_increasing hold, List.pairwise_singleton _ _, ?_⟩
        intro x hx y hy
        rw [List.mem_singleton.1 hy]
        exact c.id_lt hold hx
      · exact c.ids_increasing hold
    · exact c.ids_increasing hl
  not_isRetired {other} ho := by
    rw [isTracked_append h] at ho
    have hr : after.isRetired other = before.isRetired other := by
      rw [isRetired, (marks_append h).1, isRetired]
    rw [hr]
    by_cases hne : other = handle
    · rw [hne]
      exact (check_eq_ok_iff.1 hc).2
    · exact c.not_isRetired (by simpa [hne] using ho)
  tables_of_isShutDown hs := by
    rw [(marks_append h).2.1, (check_eq_ok_iff.1 hc).1] at hs
    cases hs

/-- Installing a listener for a pair of an admitted handle that has none keeps the tables
coherent. -/
lemma install (c : Coherent registry) (hc : registry.check handle = .ok ())
    (hn : registry.append? handle signal callback = none) (token : Token) :
    Coherent (registry.install handle signal token callback) where
  listenersOf_ne_nil {other} ho := by
    rw [listenersOf_install]
    split
    · simp
    · rename_i hne
      rw [isTracked_install] at ho
      exact c.listenersOf_ne_nil (by simpa [hne] using ho)
  signals_nodup other := by
    rw [listenersOf_install]
    split
    · have hnone : registry.listener? handle signal = none := append?_eq_none_iff.1 hn
      have hfresh : ∀ listener ∈ registry.listenersOf handle, listener.signal ≠ signal := by
        intro listener hl hs
        have := List.find?_eq_none.1 hnone listener hl
        simp [hs] at this
      rw [List.map_append]
      refine List.Nodup.append (c.signals_nodup handle) (List.nodup_singleton _) ?_
      intro kind hk hk'
      obtain ⟨listener, hl, rfl⟩ := List.mem_map.1 hk
      exact hfresh listener hl (List.mem_singleton.1 hk')
    · exact c.signals_nodup other
  subscribers_ne_nil {other listener} hl := by
    rw [listenersOf_install] at hl
    split at hl
    · rcases List.mem_append.1 hl with hl | hl
      · exact c.subscribers_ne_nil hl
      · rw [List.mem_singleton.1 hl]
        exact List.cons_ne_nil _ _
    · exact c.subscribers_ne_nil hl
  subscriptions_eq_some_iff {id other kind} := by
    rw [subscribed_install]
    exact c.subscriptions_enrol_eq_some_iff
  id_lt {other listener subscriber} hl hx := by
    rw [listenersOf_install] at hl
    split at hl
    · rcases List.mem_append.1 hl with hl | hl
      · exact Nat.lt_succ_of_lt (c.id_lt hl hx)
      · rw [List.mem_singleton.1 hl] at hx
        rw [List.mem_singleton.1 hx]
        exact Nat.lt_succ_self _
    · exact Nat.lt_succ_of_lt (c.id_lt hl hx)
  ids_increasing {other listener} hl := by
    rw [listenersOf_install] at hl
    split at hl
    · rcases List.mem_append.1 hl with hl | hl
      · exact c.ids_increasing hl
      · rw [List.mem_singleton.1 hl]
        exact List.pairwise_singleton _ _
    · exact c.ids_increasing hl
  not_isRetired {other} ho := by
    rw [isTracked_install] at ho
    by_cases hne : other = handle
    · rw [hne]
      exact (check_eq_ok_iff.1 hc).2
    · exact c.not_isRetired (by simpa [hne] using ho)
  tables_of_isShutDown hs := by
    rw [show (registry.install handle signal token callback).isShutDown =
      registry.isShutDown from rfl, (check_eq_ok_iff.1 hc).1] at hs
    cases hs

/-- Taking back the mark of a handle keeps the tables coherent. -/
lemma revive (c : Coherent registry) (handle : Handle) : Coherent (registry.revive handle) :=
  { c with
    not_isRetired := fun {other} ho => by
      rw [isRetired_revive, c.not_isRetired ho, Bool.and_false] }

/-! ## Release -/

/-- Taking the listeners of a handle keeps the tables coherent. -/
lemma take (c : Coherent registry) (handle : Handle) : Coherent (registry.take handle).2 where
  listenersOf_ne_nil {other} ho := by
    rw [isTracked_take] at ho
    rw [listenersOf_take]
    split
    · simp_all
    · rename_i hne
      exact c.listenersOf_ne_nil (by simpa [hne] using ho)
  signals_nodup other := by
    rw [listenersOf_take]
    split
    · exact List.nodup_nil
    · exact c.signals_nodup other
  subscribers_ne_nil {other listener} hl := by
    rw [listenersOf_take] at hl
    split at hl
    · cases hl
    · exact c.subscribers_ne_nil hl
  subscriptions_eq_some_iff {id other kind} := by
    rw [subscribed_take, subscriptions_take]
    split <;> rename_i hid
    · -- the row of a subscriber of `handle` names `handle`
      obtain ⟨listener, hl, subscriber, hx, hid⟩ := hid
      have hrow := c.subscriptions_eq_some_iff.2 ⟨listener, hl, rfl, subscriber, hx, hid⟩
      constructor
      · intro h
        cases h
      · rintro ⟨hs, hne⟩
        rw [c.subscriptions_eq_some_iff.2 hs] at hrow
        cases hrow
        exact absurd rfl hne
    · rw [c.subscriptions_eq_some_iff]
      refine ⟨fun hs => ⟨hs, ?_⟩, fun hs => hs.1⟩
      rintro rfl
      obtain ⟨listener, hl, -, subscriber, hx, rfl⟩ := hs
      exact hid ⟨listener, hl, subscriber, hx, rfl⟩
  id_lt {other listener subscriber} hl hx := by
    rw [listenersOf_take] at hl
    split at hl
    · cases hl
    · exact c.id_lt hl hx
  ids_increasing {other listener} hl := by
    rw [listenersOf_take] at hl
    split at hl
    · cases hl
    · exact c.ids_increasing hl
  not_isRetired {other} ho := by
    rw [isTracked_take] at ho
    exact c.not_isRetired (by simp_all)
  tables_of_isShutDown hs := by
    obtain ⟨hl, ht, hr⟩ := c.tables_of_isShutDown hs
    have hn : registry.listenersOf handle = [] := by simp [listenersOf, hl]
    simp [Registry.take, hn, hl, ht, hr]

/-- Retiring a handle keeps the tables coherent. -/
lemma retire (c : Coherent registry) (handle : Handle) :
    Coherent (registry.retire handle).2 :=
  { c.take handle with
    not_isRetired := fun {other} ho => by
      have ht : (registry.retire handle).2.isTracked other =
        (registry.take handle).2.isTracked other := rfl
      rw [ht] at ho
      rw [isRetired_retire]
      rw [isTracked_take] at ho
      simp_all [c.not_isRetired] }

/-- What an unsubscription finds: the listener that the subscriber belongs to. -/
lemma exists_of_unsubscribe? (c : Coherent before) {id : SubscriptionId}
    {released : Option Token} (h : before.unsubscribe? id = some (released, after)) :
    ∃ handle listener, listener ∈ before.listenersOf handle ∧
      before.subscriptions[id]? = some (handle, listener.signal) ∧
      before.listener? handle listener.signal = some listener := by
  cases hrow : before.subscriptions[id]? with
  | none => simp [unsubscribe?, hrow] at h
  | some target =>
    obtain ⟨handle, signal⟩ := target
    obtain ⟨listener, hl, rfl, -⟩ := c.subscriptions_eq_some_iff.1 hrow
    exact ⟨handle, listener, hl, rfl, listener?_of_mem (c.signals_nodup handle) hl⟩

/-- A subscriber belongs to one pair only. -/
lemma subscribed_unique (c : Coherent registry) {id : SubscriptionId} {other : Handle}
    {kind : Signal} (h : registry.Subscribed id handle signal)
    (h' : registry.Subscribed id other kind) : handle = other ∧ signal = kind := by
  have hrow := c.subscriptions_eq_some_iff.2 h
  rw [c.subscriptions_eq_some_iff.2 h'] at hrow
  cases hrow
  exact ⟨rfl, rfl⟩

section Unsubscribe

variable {id : SubscriptionId} {listener : Listener α} {released : Option Token}
  (c : Coherent before) (hrow : before.subscriptions[id]? = some (handle, listener.signal))
  (hl : before.listener? handle listener.signal = some listener)
  (h : before.unsubscribe? id = some (released, after))

include c hrow in
/-- A listener of the handle loses just the subscriber that is removed. -/
lemma mem_subscribers_drop? {old left : Listener α} (ho : old ∈ before.listenersOf handle)
    (hd : Listener.drop? listener.signal id old = some left) {subscriber : Subscriber α} :
    subscriber ∈ left.subscribers ↔ subscriber ∈ old.subscribers ∧ subscriber.id ≠ id := by
  unfold Listener.drop? at hd
  split at hd
  · simp [(Listener.without?_eq_some hd).2.2.2]
  · rename_i hne
    cases hd
    refine ⟨fun hx => ⟨hx, ?_⟩, fun hx => hx.1⟩
    rintro rfl
    -- otherwise the subscriber would belong to two pairs
    exact hne (c.subscribed_unique ⟨old, ho, rfl, subscriber, hx, rfl⟩
      (c.subscriptions_eq_some_iff.1 hrow)).2

include c hrow hl h in
/-- Unsubscribing a name ends its subscription and no other. -/
lemma subscribed_unsubscribe {other : SubscriptionId} {place : Handle} {kind : Signal} :
    after.Subscribed other place kind ↔ before.Subscribed other place kind ∧ other ≠ id := by
  unfold Subscribed
  rw [listenersOf_unsubscribe hrow hl h]
  split <;> rename_i hp
  · subst hp
    constructor
    · rintro ⟨left, hm, rfl, subscriber, hx, rfl⟩
      obtain ⟨old, ho, hd⟩ := List.mem_filterMap.1 hm
      obtain ⟨hx, hne⟩ := (c.mem_subscribers_drop? hrow ho hd).1 hx
      exact ⟨⟨old, ho, (Listener.drop?_eq_some hd).1.symm, subscriber, hx, rfl⟩, hne⟩
    · rintro ⟨⟨old, ho, rfl, subscriber, hx, rfl⟩, hne⟩
      cases hd : Listener.drop? listener.signal id old with
      | none =>
        unfold Listener.drop? at hd
        split at hd
        · exact absurd (Listener.without?_eq_none_iff.1 hd subscriber hx) hne
        · cases hd
      | some left =>
        exact ⟨left, List.mem_filterMap.2 ⟨old, ho, hd⟩, (Listener.drop?_eq_some hd).1,
          subscriber, (c.mem_subscribers_drop? hrow ho hd).2 ⟨hx, hne⟩, rfl⟩
  · refine ⟨fun hs => ⟨hs, ?_⟩, fun hs => hs.1⟩
    rintro rfl
    exact hp (c.subscribed_unique hs (c.subscriptions_eq_some_iff.1 hrow)).1

end Unsubscribe

/-- Removing a subscriber keeps the tables coherent. -/
lemma unsubscribe (c : Coherent before) {id : SubscriptionId} {released : Option Token}
    (h : before.unsubscribe? id = some (released, after)) : Coherent after := by
  obtain ⟨handle, listener, hm, hrow, hl⟩ := c.exists_of_unsubscribe? h
  obtain ⟨hretired, hshut, hnext⟩ := marks_unsubscribe h
  exact {
    listenersOf_ne_nil := fun {other} ho => by
      rw [isTracked_unsubscribe hrow hl h] at ho
      rw [listenersOf_unsubscribe hrow hl h]
      split
      · simp_all
      · simp_all [c.listenersOf_ne_nil]
    signals_nodup := fun other => by
      rw [listenersOf_unsubscribe hrow hl h]
      split
      · exact (signals_drop?_sublist _ _ _).nodup (c.signals_nodup handle)
      · exact c.signals_nodup other
    subscribers_ne_nil := fun {other left} hleft => by
      rw [listenersOf_unsubscribe hrow hl h] at hleft
      split at hleft
      · obtain ⟨old, ho, hd⟩ := List.mem_filterMap.1 hleft
        unfold Listener.drop? at hd
        split at hd
        · exact (Listener.without?_eq_some hd).2.2.1
        · cases hd
          exact c.subscribers_ne_nil ho
      · exact c.subscribers_ne_nil hleft
    subscriptions_eq_some_iff := fun {other place kind} => by
      rw [subscriptions_unsubscribe hrow hl h, c.subscribed_unsubscribe hrow hl h,
        ← c.subscriptions_eq_some_iff]
      split <;> simp_all
    id_lt := fun {other left subscriber} hleft hx => by
      rw [hnext]
      rw [listenersOf_unsubscribe hrow hl h] at hleft
      split at hleft
      · obtain ⟨old, ho, hd⟩ := List.mem_filterMap.1 hleft
        exact c.id_lt ho ((Listener.drop?_eq_some hd).2.2 subscriber hx)
      · exact c.id_lt hleft hx
    ids_increasing := fun {other left} hleft => by
      rw [listenersOf_unsubscribe hrow hl h] at hleft
      split at hleft
      · obtain ⟨old, ho, hd⟩ := List.mem_filterMap.1 hleft
        unfold Listener.drop? at hd
        split at hd
        · rw [(Listener.without?_eq_some hd).2.2.2]
          exact (c.ids_increasing ho).filter _
        · cases hd
          exact c.ids_increasing ho
      · exact c.ids_increasing hleft
    not_isRetired := fun {other} ho => by
      rw [isRetired, hretired, ← isRetired]
      rw [isTracked_unsubscribe hrow hl h] at ho
      split at ho
      · rename_i hother
        rw [hother]
        exact c.not_isRetired (isTracked_of_mem hm)
      · exact c.not_isRetired ho
    tables_of_isShutDown := fun hs => by
      rw [hshut] at hs
      rw [(c.tables_of_isShutDown hs).2.2] at hrow
      simp at hrow }

/-- Shutting down leaves coherent tables. -/
lemma clear (registry : Registry α) : Coherent registry.clear.2 where
  listenersOf_ne_nil h := by simp at h
  signals_nodup handle := by simp
  subscribers_ne_nil h := by simp at h
  subscriptions_eq_some_iff := by simp [Subscribed]
  id_lt h := by simp at h
  ids_increasing h := by simp at h
  not_isRetired h := by simp at h
  tables_of_isShutDown _ := ⟨rfl, rfl, rfl⟩

end Coherent

end Compositor.Registry
