import Compositor.Proofs.Registry.Coherent
import Mathlib.Data.List.Dedup

set_option autoImplicit false

/-!
# The roster

What a registry knows can be written down as one flat list: the subscribers of all handles and
signals in the order of their registration, each with its pair. Such a *roster* has no listeners, no
index and no row to keep in step with another. Every step of the registry's tables is a plain step of
the roster, and every query is a function of it.

## Main definitions

* `Enrolment`, `Roster` — a subscriber with its pair, and the list of them with the marks.
* `Represents` — a registry and a roster know the same.
* `SameAnswers` — a registry and a roster answer every query alike.

## Main results

* `Represents.enrol_append`, `Represents.enrol_install`, `Represents.revive` — the steps of a
  registration and of an announcement are steps of the roster.
* `Represents.dismiss`, `Represents.retire`, `Represents.leave`, `Represents.close` — so are the
  steps that release listeners.
* `Represents.sameAnswers` — queries are functions of the roster.
-/

namespace Compositor.Registry

variable {α : Type}

/-- A subscriber with its handle and signal. -/
structure Enrolment (α : Type) where
  /-- The name of the subscriber. -/
  id : SubscriptionId
  /-- The handle that it subscribed to. -/
  handle : Handle
  /-- The signal that it subscribed to. -/
  signal : Signal
  /-- What it has done. -/
  callback : Callback α

/-- The subscribers in the order of registration, and the marks. -/
structure Roster (α : Type) where
  /-- The subscribers. -/
  enrolments : List (Enrolment α)
  /-- The handles whose destruction was observed. -/
  retired : Std.ExtTreeSet Handle
  /-- The number of the next subscriber. -/
  next : ℕ
  /-- Whether all further work is refused. -/
  isShutDown : Bool

namespace Roster

/-- The roster without subscribers. -/
def empty : Roster α := ⟨[], ∅, 0, false⟩

variable (roster : Roster α)

/-! ## Queries -/

/-- The subscribers of a handle. -/
def ofHandle (handle : Handle) : List (Enrolment α) :=
  roster.enrolments.filter fun enrolment => enrolment.handle = handle

/-- The subscribers of a handle and signal. -/
def ofPair (handle : Handle) (signal : Signal) : List (Enrolment α) :=
  roster.enrolments.filter fun enrolment => enrolment.handle = handle ∧ enrolment.signal = signal

/-- The callbacks that a signal of a handle runs. -/
def callbacks (handle : Handle) (signal : Signal) : List (Callback α) :=
  (roster.ofPair handle signal).map Enrolment.callback

/-- The number of subscribers of a handle and signal. -/
def subscriberCount (handle : Handle) (signal : Signal) : ℕ :=
  (roster.ofPair handle signal).length

/-- The number of distinct signals that a handle has subscribers for. -/
def listenerCount (handle : Handle) : ℕ :=
  ((roster.ofHandle handle).map Enrolment.signal).dedup.length

/-- Whether a handle has subscribers. -/
def isTracked (handle : Handle) : Bool :=
  roster.enrolments.any fun enrolment => enrolment.handle = handle

/-- Whether the destruction of a handle was observed. -/
def isRetired (handle : Handle) : Bool :=
  roster.retired.contains handle

/-- The structural text: the numbers of handles, of subscribers and of marks. -/
def describe : String :=
  Structural.record "EventRegistry"
    [("handles", toString (roster.enrolments.map Enrolment.handle).dedup.length),
      ("subscriptions", toString roster.enrolments.length),
      ("retired", toString roster.retired.size),
      ("shut_down", Structural.truth roster.isShutDown)]

/-! ## Steps -/

/-- Whether a registration on a handle is admitted. -/
def check (handle : Handle) : Except Refusal Unit :=
  if roster.isShutDown then .error .shutDown
  else if roster.isRetired handle then .error (.handleRetired handle)
  else .ok ()

/-- The name that the next subscriber gets. -/
def nextId : SubscriptionId :=
  ⟨roster.next⟩

/-- Appends a subscriber. -/
def enrol (handle : Handle) (signal : Signal) (callback : Callback α) : Roster α :=
  { roster with
    enrolments := roster.enrolments ++ [⟨roster.nextId, handle, signal, callback⟩]
    next := roster.next + 1 }

/-- Removes a subscriber by its name. -/
def leave (id : SubscriptionId) : Roster α :=
  { roster with enrolments := roster.enrolments.filter fun enrolment => enrolment.id ≠ id }

/-- Removes the subscribers of a handle. -/
def dismiss (handle : Handle) : Roster α :=
  { roster with
    enrolments := roster.enrolments.filter fun enrolment => enrolment.handle ≠ handle }

/-- Marks a handle as destroyed and removes its subscribers. -/
def retire (handle : Handle) : Roster α :=
  { roster.dismiss handle with retired := roster.retired.insert handle }

/-- Takes back the mark of a destroyed handle. -/
def revive (handle : Handle) : Roster α :=
  { roster with retired := roster.retired.erase handle }

/-- Removes all subscribers and marks, and refuses further work. -/
def close : Roster α :=
  { roster with enrolments := [], retired := ∅, isShutDown := true }

end Roster

/-! ## The subscribers of a pair -/

section Views

variable {registry before after : Registry α} {handle : Handle} {signal : Signal}
  {callback : Callback α}

/-- The subscribers of a pair are those of its listener. -/
lemma Coherent.subscribersOf_of_mem (c : Coherent registry) {listener : Listener α}
    (h : listener ∈ registry.listenersOf handle) :
    registry.subscribersOf handle listener.signal = listener.subscribers := by
  rw [subscribersOf, listener?_of_mem (c.signals_nodup handle) h]

/-- A pair without a listener has no subscribers. -/
lemma subscribersOf_eq_nil (h : ∀ listener ∈ registry.listenersOf handle,
    listener.signal ≠ signal) : registry.subscribersOf handle signal = [] := by
  have hn : registry.listener? handle signal = none :=
    List.find?_eq_none.2 fun listener hl => by simpa using h listener hl
  rw [subscribersOf, hn]

/-- A pair has a subscriber exactly if some listener of the pair has it. -/
lemma Coherent.mem_subscribersOf_iff (c : Coherent registry) {subscriber : Subscriber α} :
    subscriber ∈ registry.subscribersOf handle signal ↔
      ∃ listener ∈ registry.listenersOf handle, listener.signal = signal ∧
        subscriber ∈ listener.subscribers := by
  constructor
  · intro h
    unfold subscribersOf at h
    cases hl : registry.listener? handle signal with
    | none => simp [hl] at h
    | some listener =>
      obtain ⟨hm, hs⟩ := mem_of_listener? hl
      exact ⟨listener, hm, hs, by simpa [hl] using h⟩
  · rintro ⟨listener, hl, rfl, hx⟩
    rwa [c.subscribersOf_of_mem hl]

/-- What the listeners say of a subscriber, in terms of the subscribers of its pair. -/
lemma Coherent.subscribed_iff (c : Coherent registry) {id : SubscriptionId} :
    registry.Subscribed id handle signal ↔
      ∃ subscriber ∈ registry.subscribersOf handle signal, subscriber.id = id := by
  simp only [Subscribed, c.mem_subscribersOf_iff]
  constructor
  · rintro ⟨listener, hl, hs, subscriber, hx, hid⟩
    exact ⟨subscriber, ⟨listener, hl, hs, hx⟩, hid⟩
  · rintro ⟨subscriber, ⟨listener, hl, hs, hx⟩, hid⟩
    exact ⟨listener, hl, hs, subscriber, hx, hid⟩

/-- Adding a subscriber extends the listener of its pair. -/
lemma listener?_append (h : before.append? handle signal callback = some after) (kind : Signal) :
    after.listener? handle kind =
      (before.listener? handle kind).map
        (Listener.extend signal ⟨before.nextId, callback⟩) := by
  unfold listener?
  rw [listenersOf_append h, if_pos rfl, List.find?_map]
  simp only [Function.comp_def, Listener.signal_extend]

/-- A further subscriber comes last among those of its pair. -/
lemma subscribersOf_append (h : before.append? handle signal callback = some after)
    (other : Handle) (kind : Signal) :
    after.subscribersOf other kind =
      before.subscribersOf other kind ++
        if other = handle ∧ kind = signal then [⟨before.nextId, callback⟩] else [] := by
  by_cases ho : other = handle
  · subst ho
    unfold subscribersOf
    rw [listener?_append h]
    cases hl : before.listener? other kind with
    | none =>
      have hk : kind ≠ signal := by
        rintro rfl
        obtain ⟨⟨listener, hs⟩, -⟩ := append?_eq_some h
        rw [hl] at hs
        cases hs
      simp [hk]
    | some listener =>
      obtain ⟨-, rfl⟩ := mem_of_listener? hl
      by_cases hk : listener.signal = signal <;> simp [Listener.extend, hk]
  · unfold subscribersOf listener?
    simp [listenersOf_append h, ho]

/-- The subscriber that comes with a listener is the only one of its pair. -/
lemma subscribersOf_install (hn : registry.append? handle signal callback = none) (token : Token)
    (other : Handle) (kind : Signal) :
    (registry.install handle signal token callback).subscribersOf other kind =
      registry.subscribersOf other kind ++
        if other = handle ∧ kind = signal then [⟨registry.nextId, callback⟩] else [] := by
  unfold subscribersOf listener?
  rw [listenersOf_install]
  by_cases ho : other = handle
  · subst ho
    by_cases hk : kind = signal
    · subst hk
      have hnone : registry.listener? other kind = none := append?_eq_none_iff.1 hn
      unfold listener? at hnone
      simp [hnone]
    · simp [hk, Ne.symm hk]
  · simp [ho]

/-- Taking the listeners of a handle takes its subscribers, and no others. -/
lemma subscribersOf_take (registry : Registry α) (handle other : Handle) (kind : Signal) :
    (registry.take handle).2.subscribersOf other kind =
      if other = handle then [] else registry.subscribersOf other kind := by
  unfold subscribersOf listener?
  rw [listenersOf_take]
  by_cases ho : other = handle <;> simp [ho]

/-- The listener of a signal, after a subscriber was taken from one of the listeners, is what is left
of the one before. -/
lemma find?_filterMap_drop? (signal kind : Signal) (id : SubscriptionId)
    {listeners : List (Listener α)} (distinct : (listeners.map Listener.signal).Nodup) :
    (listeners.filterMap (Listener.drop? signal id)).find? (fun left => left.signal = kind) =
      (listeners.find? fun listener => listener.signal = kind).bind
        (Listener.drop? signal id) := by
  induction listeners with
  | nil => rfl
  | cons listener rest ih =>
    obtain ⟨hne, hrest⟩ := List.nodup_cons.1 distinct
    have hlater := ih hrest
    by_cases hk : listener.signal = kind
    · have hnone : rest.find? (fun other => other.signal = kind) = none :=
        List.find?_eq_none.2 fun other ho hs =>
          hne (List.mem_map.2 ⟨other, ho, (of_decide_eq_true hs).trans hk.symm⟩)
      rw [List.find?_cons_of_pos (by simpa using hk), Option.bind_some]
      cases hd : Listener.drop? signal id listener with
      | none => rw [List.filterMap_cons_none hd, hlater, hnone, Option.bind_none]
      | some left =>
        have hleft := (Listener.drop?_eq_some hd).1.trans hk
        rw [List.filterMap_cons_some hd, List.find?_cons_of_pos (by simpa using hleft)]
    · rw [List.find?_cons_of_neg (by simpa using hk), ← hlater]
      cases hd : Listener.drop? signal id listener with
      | none => rw [List.filterMap_cons_none hd]
      | some left =>
        have hleft := fun hs => hk ((Listener.drop?_eq_some hd).1.symm.trans hs)
        rw [List.filterMap_cons_some hd, List.find?_cons_of_neg (by simpa using hleft)]

/-- What is left of a listener lacks the subscriber, if no listener of another signal had it. -/
lemma Listener.subscribers_drop? {listener : Listener α} {signal : Signal} {id : SubscriptionId}
    (h : listener.signal ≠ signal → ∀ subscriber ∈ listener.subscribers, subscriber.id ≠ id) :
    ((Listener.drop? signal id listener).map Listener.subscribers).getD [] =
      listener.subscribers.filter fun subscriber => subscriber.id ≠ id := by
  unfold drop?
  split
  · cases hw : Listener.without? listener id with
    | none =>
      have hall := Listener.without?_eq_none_iff.1 hw
      exact (List.filter_eq_nil_iff.2 fun subscriber hx => by simp [hall subscriber hx]).symm
    | some left => exact (Listener.without?_eq_some hw).2.2.2
  · rename_i hs
    exact (List.filter_eq_self.2 fun subscriber hx => by simpa using h hs subscriber hx).symm

/-- Removing a subscriber takes it from the subscribers of every pair.

**Proof sketch.** The listener of the pair loses the subscriber, if it has it at all; a subscriber
of another pair has another name. -/
lemma Coherent.subscribersOf_unsubscribe (c : Coherent before) {id : SubscriptionId}
    {released : Option Token} (h : before.unsubscribe? id = some (released, after))
    (other : Handle) (kind : Signal) :
    after.subscribersOf other kind =
      (before.subscribersOf other kind).filter fun subscriber => subscriber.id ≠ id := by
  obtain ⟨handle, listener, -, hrow, hl⟩ := c.exists_of_unsubscribe? h
  have hothers : other ≠ handle ∨ kind ≠ listener.signal → ∀ subscriber ∈
      before.subscribersOf other kind, subscriber.id ≠ id := by
    rintro hne subscriber hx rfl
    obtain ⟨rfl, rfl⟩ := c.subscribed_unique (c.subscribed_iff.2 ⟨subscriber, hx, rfl⟩)
      (c.subscriptions_eq_some_iff.1 hrow)
    simp at hne
  have hrows := listenersOf_unsubscribe hrow hl h other
  by_cases ho : other = handle
  · subst ho
    rw [if_pos rfl] at hrows
    have hafter : after.listener? other kind =
        (before.listener? other kind).bind (Listener.drop? listener.signal id) := by
      rw [listener?, hrows, find?_filterMap_drop? _ _ _ (c.signals_nodup other), listener?]
    rw [subscribersOf, hafter]
    cases hold : before.listener? other kind with
    | none => rw [subscribersOf, hold]; rfl
    | some old =>
      have hsubscribers : before.subscribersOf other kind = old.subscribers := by
        rw [subscribersOf, hold]
      have hkind := (mem_of_listener? hold).2
      rw [hsubscribers] at hothers ⊢
      rw [← Listener.subscribers_drop? fun hne => hothers (.inr (hkind ▸ hne)), Option.bind_some]
      cases Listener.drop? listener.signal id old <;> rfl
  · rw [if_neg ho] at hrows
    have hsame : after.subscribersOf other kind = before.subscribersOf other kind := by
      rw [subscribersOf, listener?, hrows, subscribersOf, listener?]
    rw [hsame]
    exact (List.filter_eq_self.2 fun subscriber hx => by
      simpa using hothers (.inl ho) subscriber hx).symm

/-- A subscriber is removed exactly if its name has a row. -/
lemma isSome_unsubscribe? (registry : Registry α) (id : SubscriptionId) :
    (registry.unsubscribe? id).isSome = (registry.subscriptions[id]?).isSome := by
  unfold unsubscribe?
  cases registry.subscriptions[id]? with
  | none => rfl
  | some row =>
    dsimp only
    split
    · rfl
    · split <;> rfl

end Views

/-! ## Rosters that represent registries -/

/-- The subscriber of an enrolment. -/
def Enrolment.subscriber (enrolment : Enrolment α) : Subscriber α :=
  ⟨enrolment.id, enrolment.callback⟩

/-- A registry and a roster know the same subscribers and marks. -/
structure Represents (registry : Registry α) (roster : Roster α) : Prop where
  /-- The tables of the registry agree. -/
  coherent : Coherent registry
  /-- The subscribers of a pair stand in the same order. -/
  subscribersOf_eq (handle : Handle) (signal : Signal) :
    registry.subscribersOf handle signal =
      (roster.ofPair handle signal).map Enrolment.subscriber
  /-- The roster has every name once. -/
  ids_nodup : (roster.enrolments.map Enrolment.id).Nodup
  /-- The marks are the same. -/
  retired_eq : registry.retired = roster.retired
  /-- The count of names is the same. -/
  next_eq : registry.nextSubscription = roster.next
  /-- Both are shut down or both are open. -/
  isShutDown_eq : registry.isShutDown = roster.isShutDown

namespace Roster

variable {roster : Roster α} {handle other : Handle} {signal kind : Signal}

/-- The roster of a pair has just the enrolments for it. -/
lemma mem_ofPair_iff {enrolment : Enrolment α} :
    enrolment ∈ roster.ofPair handle signal ↔
      enrolment ∈ roster.enrolments ∧ enrolment.handle = handle ∧ enrolment.signal = signal := by
  simp [ofPair]

/-- An enrolment comes last in the roster of its pair. -/
lemma ofPair_enrol (callback : Callback α) :
    (roster.enrol handle signal callback).ofPair other kind =
      roster.ofPair other kind ++
        if other = handle ∧ kind = signal then [⟨roster.nextId, handle, signal, callback⟩]
        else [] := by
  unfold ofPair enrol
  rw [List.filter_append]
  by_cases hp : other = handle ∧ kind = signal
  · simp [hp]
  · have hn : ¬ (handle = other ∧ signal = kind) := fun h => hp ⟨h.1.symm, h.2.symm⟩
    simp [hp, hn]

/-- Dismissing a handle empties the rosters of its pairs, and no others. -/
lemma ofPair_dismiss :
    (roster.dismiss handle).ofPair other kind =
      if other = handle then [] else roster.ofPair other kind := by
  unfold ofPair dismiss
  rw [List.filter_filter]
  by_cases ho : other = handle
  · subst ho
    rw [if_pos rfl, List.filter_eq_nil_iff]
    rintro enrolment - hp
    simp at hp
    exact hp.2 hp.1.1
  · rw [if_neg ho]
    refine List.filter_congr fun enrolment _ => ?_
    by_cases hh : enrolment.handle = other
    · simp [hh, ho]
    · simp [hh]

/-- Leaving takes the name from every roster. -/
lemma ofPair_leave (id : SubscriptionId) :
    (roster.leave id).ofPair handle signal =
      (roster.ofPair handle signal).filter fun enrolment => enrolment.id ≠ id := by
  unfold ofPair leave
  rw [List.filter_filter, List.filter_filter]
  exact List.filter_congr fun enrolment _ => Bool.and_comm _ _

/-- A roster without a name is not changed by removing it. -/
lemma leave_eq_self {id : SubscriptionId}
    (h : ∀ enrolment ∈ roster.enrolments, enrolment.id ≠ id) : roster.leave id = roster := by
  have hf : roster.enrolments.filter (fun enrolment => enrolment.id ≠ id) = roster.enrolments :=
    List.filter_eq_self.2 fun enrolment he => by simpa using h enrolment he
  rw [leave, hf]

end Roster

namespace Represents

variable {registry before after : Registry α} {roster : Roster α} {handle : Handle}
  {signal : Signal} {callback : Callback α}

/-- The empty registry is an empty roster. -/
lemma empty : Represents (empty : Registry α) Roster.empty where
  coherent := .empty
  subscribersOf_eq handle signal := by
    rw [subscribersOf_eq_nil (by simp)]
    rfl
  ids_nodup := List.nodup_nil
  retired_eq := rfl
  next_eq := rfl
  isShutDown_eq := rfl

/-- An enrolment is a subscriber of its pair. -/
lemma subscribed_iff (r : Represents registry roster) {id : SubscriptionId} :
    registry.Subscribed id handle signal ↔
      ∃ enrolment ∈ roster.enrolments, enrolment.handle = handle ∧ enrolment.signal = signal ∧
        enrolment.id = id := by
  rw [r.coherent.subscribed_iff, r.subscribersOf_eq]
  constructor
  · rintro ⟨subscriber, hx, rfl⟩
    obtain ⟨enrolment, he, rfl⟩ := List.mem_map.1 hx
    obtain ⟨hm, hh, hs⟩ := Roster.mem_ofPair_iff.1 he
    exact ⟨enrolment, hm, hh, hs, rfl⟩
  · rintro ⟨enrolment, hm, hh, hs, rfl⟩
    exact ⟨enrolment.subscriber,
      List.mem_map_of_mem (Roster.mem_ofPair_iff.2 ⟨hm, hh, hs⟩), rfl⟩

/-- Registrations are admitted alike. -/
lemma check_eq (r : Represents registry roster) (handle : Handle) :
    registry.check handle = roster.check handle := by
  rw [Registry.check, Roster.check, isRetired, Roster.isRetired, r.isShutDown_eq, r.retired_eq]

/-- The next subscriber gets the same name. -/
lemma nextId_eq (r : Represents registry roster) : registry.nextId = roster.nextId := by
  rw [nextId, Roster.nextId, r.next_eq]

/-- The same callbacks are served, in the same order. -/
lemma callbacks_eq (r : Represents registry roster) (handle : Handle) (signal : Signal) :
    registry.callbacks handle signal = roster.callbacks handle signal := by
  rw [callbacks, r.subscribersOf_eq, List.map_map]
  rfl

/-! ### The steps -/

/-- The next name is not on the roster. -/
lemma nextId_not_mem (r : Represents registry roster) :
    roster.nextId ∉ roster.enrolments.map Enrolment.id := by
  intro hm
  obtain ⟨enrolment, he, hid⟩ := List.mem_map.1 hm
  have hs := r.subscribed_iff.2 ⟨enrolment, he, rfl, rfl, hid⟩
  rw [← r.nextId_eq] at hs
  exact r.coherent.not_subscribed_nextId _ _ hs

/-- One more enrolment with the next name leaves the names distinct. -/
lemma ids_nodup_enrol (r : Represents registry roster) :
    ((roster.enrol handle signal callback).enrolments.map Enrolment.id).Nodup := by
  rw [Roster.enrol, List.map_append]
  refine List.Nodup.append r.ids_nodup (List.nodup_singleton _) ?_
  intro id hm hm'
  rw [List.map_singleton, List.mem_singleton] at hm'
  rw [hm'] at hm
  exact r.nextId_not_mem hm

/-- Appending a subscriber enrols it. -/
lemma enrol_append (r : Represents before roster) (hc : before.check handle = .ok ())
    (h : before.append? handle signal callback = some after) :
    Represents after (roster.enrol handle signal callback) where
  coherent := r.coherent.append hc h
  subscribersOf_eq other kind := by
    rw [subscribersOf_append h, Roster.ofPair_enrol, List.map_append, r.subscribersOf_eq,
      r.nextId_eq]
    split <;> rfl
  ids_nodup := r.ids_nodup_enrol
  retired_eq := (marks_append h).1.trans r.retired_eq
  next_eq := (marks_append h).2.2.1.trans (congrArg (· + 1) r.next_eq)
  isShutDown_eq := (marks_append h).2.1.trans r.isShutDown_eq

/-- Installing a listener enrols its subscriber. -/
lemma enrol_install (r : Represents registry roster) (hc : registry.check handle = .ok ())
    (hn : registry.append? handle signal callback = none) (token : Token) :
    Represents (registry.install handle signal token callback)
      (roster.enrol handle signal callback) where
  coherent := r.coherent.install hc hn token
  subscribersOf_eq other kind := by
    rw [subscribersOf_install hn, Roster.ofPair_enrol, List.map_append, r.subscribersOf_eq,
      r.nextId_eq]
    split <;> rfl
  ids_nodup := r.ids_nodup_enrol
  retired_eq := r.retired_eq
  next_eq := congrArg (· + 1) r.next_eq
  isShutDown_eq := r.isShutDown_eq

/-- Taking the listeners of a handle dismisses its subscribers. -/
lemma dismiss (r : Represents registry roster) (handle : Handle) :
    Represents (registry.take handle).2 (roster.dismiss handle) where
  coherent := r.coherent.take handle
  subscribersOf_eq other kind := by
    rw [subscribersOf_take, Roster.ofPair_dismiss]
    split
    · rfl
    · exact r.subscribersOf_eq other kind
  ids_nodup := (List.filter_sublist.map _).nodup r.ids_nodup
  retired_eq := r.retired_eq
  next_eq := r.next_eq
  isShutDown_eq := r.isShutDown_eq

/-- Retiring a handle is the same for both. -/
lemma retire (r : Represents registry roster) (handle : Handle) :
    Represents (registry.retire handle).2 (roster.retire handle) :=
  { r.dismiss handle with
    coherent := r.coherent.retire handle
    subscribersOf_eq := (r.dismiss handle).subscribersOf_eq
    retired_eq := congrArg (·.insert handle) r.retired_eq }

/-- Removing a subscriber takes it off the roster. -/
lemma leave (r : Represents before roster) {id : SubscriptionId} {released : Option Token}
    (h : before.unsubscribe? id = some (released, after)) : Represents after (roster.leave id) where
  coherent := r.coherent.unsubscribe h
  subscribersOf_eq other kind := by
    rw [r.coherent.subscribersOf_unsubscribe h, Roster.ofPair_leave, r.subscribersOf_eq,
      List.filter_map]
    rfl
  ids_nodup := (List.filter_sublist.map _).nodup r.ids_nodup
  retired_eq := (marks_unsubscribe h).1.trans r.retired_eq
  next_eq := (marks_unsubscribe h).2.2.trans r.next_eq
  isShutDown_eq := (marks_unsubscribe h).2.1.trans r.isShutDown_eq

/-- Taking back the mark of a handle is the same for both. -/
lemma revive (r : Represents registry roster) (handle : Handle) :
    Represents (registry.revive handle) (roster.revive handle) :=
  { r with
    coherent := r.coherent.revive handle
    subscribersOf_eq := r.subscribersOf_eq
    retired_eq := congrArg (·.erase handle) r.retired_eq }

/-- Shutting down closes the roster. -/
lemma close (r : Represents registry roster) : Represents registry.clear.2 roster.close where
  coherent := .clear registry
  subscribersOf_eq handle signal := by
    rw [subscribersOf_eq_nil (by simp)]
    rfl
  ids_nodup := List.nodup_nil
  retired_eq := rfl
  next_eq := r.next_eq
  isShutDown_eq := rfl

end Represents

/-! ## Queries -/

/-- A registry and a roster answer every query alike. -/
structure SameAnswers (registry : Registry α) (roster : Roster α) : Prop where
  /-- The number of subscribers of a pair. -/
  subscriberCount (handle : Handle) (signal : Signal) :
    registry.subscriberCount handle signal = roster.subscriberCount handle signal
  /-- The number of listeners of a handle, which is that of its distinct signals. -/
  listenerCount (handle : Handle) : registry.listenerCount handle = roster.listenerCount handle
  /-- Whether a handle has listeners. -/
  isTracked (handle : Handle) : registry.isTracked handle = roster.isTracked handle
  /-- Whether a handle is retired. -/
  isRetired (handle : Handle) : registry.isRetired handle = roster.isRetired handle
  /-- The structural text. -/
  describe : registry.describe = roster.describe

/-- A table with known distinct keys has as many rows. -/
lemma size_eq_length {κ β : Type} [Ord κ] [Std.TransOrd κ] [Std.LawfulEqOrd κ]
    {table : Std.ExtTreeMap κ β} {keys : List κ} (hn : keys.Nodup)
    (hm : ∀ key, key ∈ table ↔ key ∈ keys) : table.size = keys.length := by
  rw [← Std.ExtTreeMap.length_keys]
  refine List.Perm.length_eq ((List.perm_ext_iff_of_nodup Std.ExtTreeMap.nodup_keys hn).2 ?_)
  exact fun key => Std.ExtTreeMap.mem_keys.trans (hm key)

namespace Represents

variable {registry : Registry α} {roster : Roster α}

/-- A pair has a listener exactly if it has an enrolment. -/
lemma exists_listener_iff (r : Represents registry roster) {handle : Handle} {signal : Signal} :
    (∃ listener ∈ registry.listenersOf handle, listener.signal = signal) ↔
      ∃ enrolment ∈ roster.enrolments, enrolment.handle = handle ∧
        enrolment.signal = signal := by
  constructor
  · rintro ⟨listener, hl, hs⟩
    obtain ⟨subscriber, hx⟩ := List.exists_mem_of_ne_nil _ (r.coherent.subscribers_ne_nil hl)
    obtain ⟨enrolment, he, hh, hk, -⟩ := r.subscribed_iff.1 ⟨listener, hl, hs, subscriber, hx, rfl⟩
    exact ⟨enrolment, he, hh, hk⟩
  · rintro ⟨enrolment, he, hh, hk⟩
    obtain ⟨listener, hl, hs, -⟩ := r.subscribed_iff.2 ⟨enrolment, he, hh, hk, rfl⟩
    exact ⟨listener, hl, hs⟩

/-- A handle has a row exactly if it has an enrolment. -/
lemma isTracked_iff (r : Represents registry roster) {handle : Handle} :
    registry.isTracked handle = true ↔ handle ∈ roster.enrolments.map Enrolment.handle := by
  rw [List.mem_map]
  constructor
  · intro ht
    obtain ⟨listener, hl⟩ := List.exists_mem_of_ne_nil _ (r.coherent.listenersOf_ne_nil ht)
    obtain ⟨enrolment, he, hh, -⟩ := r.exists_listener_iff.1 ⟨listener, hl, rfl⟩
    exact ⟨enrolment, he, hh⟩
  · rintro ⟨enrolment, he, hh⟩
    obtain ⟨listener, hl, -⟩ := r.exists_listener_iff.2 ⟨enrolment, he, hh, rfl⟩
    exact isTracked_of_mem hl

/-- A handle has as many listeners as it has distinct signals on the roster. -/
lemma listenerCount_eq (r : Represents registry roster) (handle : Handle) :
    registry.listenerCount handle = roster.listenerCount handle := by
  rw [listenerCount, ← List.length_map Listener.signal, Roster.listenerCount]
  refine List.Perm.length_eq ((List.perm_ext_iff_of_nodup (r.coherent.signals_nodup handle)
    (List.nodup_dedup _)).2 fun signal => ?_)
  rw [List.mem_dedup, List.mem_map, r.exists_listener_iff, List.mem_map]
  simp [Roster.ofHandle, and_assoc]

/-- There are as many rows of subscribers as enrolments. -/
lemma size_subscriptions (r : Represents registry roster) :
    registry.subscriptions.size = roster.enrolments.length := by
  rw [← List.length_map Enrolment.id]
  refine size_eq_length r.ids_nodup fun id => ?_
  rw [← Std.ExtTreeMap.isSome_getElem?_iff_mem, Option.isSome_iff_exists, List.mem_map]
  simp only [Prod.exists, r.coherent.subscriptions_eq_some_iff, r.subscribed_iff]
  constructor
  · rintro ⟨handle, signal, enrolment, he, -, -, hid⟩
    exact ⟨enrolment, he, hid⟩
  · rintro ⟨enrolment, he, hid⟩
    exact ⟨_, _, enrolment, he, rfl, rfl, hid⟩

/-- There are as many rows of handles as distinct handles on the roster. -/
lemma size_listeners (r : Represents registry roster) :
    registry.listeners.size = (roster.enrolments.map Enrolment.handle).dedup.length := by
  refine size_eq_length (List.nodup_dedup _) fun handle => ?_
  rw [List.mem_dedup, ← r.isTracked_iff, isTracked, Std.ExtTreeMap.contains_iff_mem]

/-- **Queries are functions of the roster.** -/
theorem sameAnswers (r : Represents registry roster) : SameAnswers registry roster where
  subscriberCount handle signal := by
    rw [subscriberCount, r.subscribersOf_eq, List.length_map, Roster.subscriberCount]
  listenerCount := r.listenerCount_eq
  isTracked handle := by
    rw [Bool.eq_iff_iff, r.isTracked_iff]
    simp [Roster.isTracked]
  isRetired handle := by
    rw [isRetired, Roster.isRetired, r.retired_eq]
  describe := by
    rw [describe, Roster.describe, r.size_listeners, r.size_subscriptions, r.retired_eq,
      r.isShutDown_eq]

/-- A name is known to the registry exactly if it is on the roster. -/
lemma isSome_unsubscribe? (r : Represents registry roster) (id : SubscriptionId) :
    (registry.unsubscribe? id).isSome =
      decide (∃ enrolment ∈ roster.enrolments, enrolment.id = id) := by
  rw [Registry.isSome_unsubscribe?, Bool.eq_iff_iff, Option.isSome_iff_exists, decide_eq_true_iff]
  simp only [Prod.exists, r.coherent.subscriptions_eq_some_iff, r.subscribed_iff]
  constructor
  · rintro ⟨handle, signal, enrolment, he, -, -, hid⟩
    exact ⟨enrolment, he, hid⟩
  · rintro ⟨enrolment, he, hid⟩
    exact ⟨_, _, enrolment, he, rfl, rfl, hid⟩

end Represents

end Compositor.Registry
