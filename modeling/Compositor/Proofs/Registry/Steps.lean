import Compositor.Registry.Process
import Mathlib.Data.List.Nodup
import Mathlib.Tactic.Common

set_option autoImplicit false

/-!
# What the steps of the registry do to its tables

The tables of a registry are read through a few views: the listeners of a handle, the target of a
token, the row of a subscriber, and the marks. For each step that changes the tables this module
says what it does to each view.

## Main results

* `listenersOf_append`, `listenersOf_install`, `listenersOf_take`, `listenersOf_unsubscribe` — the
  listeners of every handle after a step.
* `target?_install`, `target?_take`, `target?_unsubscribe` — the target of every token.
* `subscriptions_take`, `subscriptions_unsubscribe` — the row of every subscriber.
* `unsubscribe?_eq_some` — the removal of one subscriber, in one piece.
-/

namespace Compositor.Registry

variable {α : Type}

/-- Erasing a list of keys leaves exactly the other rows. -/
lemma getElem?_foldl_erase {κ β : Type} [Ord κ] [Std.TransOrd κ] [Std.LawfulEqOrd κ]
    [DecidableEq κ] (keys : List κ) (table : Std.ExtTreeMap κ β) (key : κ) :
    (keys.foldl (fun table key => table.erase key) table)[key]? =
      if key ∈ keys then none else table[key]? := by
  induction keys generalizing table with
  | nil => simp
  | cons first rest ih =>
    rw [List.foldl_cons, ih, Std.ExtTreeMap.getElem?_erase]
    by_cases hf : first = key
    · simp [hf]
    · simp [hf, Ne.symm hf]

/-- The row of a handle holds its listeners. -/
lemma listenersOf_of_mem_toList {registry : Registry α} {row : Handle × List (Listener α)}
    (h : row ∈ registry.listeners.toList) : registry.listenersOf row.1 = row.2 := by
  rw [listenersOf, Std.ExtTreeMap.mem_toList_iff_getElem?_eq_some.1 h, Option.getD_some]

/-- A handle with a listener has a row. -/
lemma isTracked_of_mem {registry : Registry α} {handle : Handle} {listener : Listener α}
    (h : listener ∈ registry.listenersOf handle) : registry.isTracked handle = true := by
  unfold isTracked
  rw [Std.ExtTreeMap.contains_eq_isSome_getElem?]
  unfold listenersOf at h
  cases hrow : registry.listeners[handle]? with
  | none => simp [hrow] at h
  | some row => rfl

/-- The listener of a pair is one of the handle's, and listens to the signal. -/
lemma mem_of_listener? {registry : Registry α} {handle : Handle} {signal : Signal}
    {listener : Listener α} (h : registry.listener? handle signal = some listener) :
    listener ∈ registry.listenersOf handle ∧ listener.signal = signal :=
  ⟨List.mem_of_find?_eq_some h, by simpa using List.find?_some h⟩

/-- If the signals of a handle are distinct, each of its listeners is the one of its pair. -/
lemma listener?_of_mem {registry : Registry α} {handle : Handle} {listener : Listener α}
    (distinct : ((registry.listenersOf handle).map Listener.signal).Nodup)
    (h : listener ∈ registry.listenersOf handle) :
    registry.listener? handle listener.signal = some listener := by
  unfold listener?
  cases hf : (registry.listenersOf handle).find? (fun l => l.signal = listener.signal) with
  | none => simpa using List.find?_eq_none.1 hf listener h
  | some found =>
    have hs : found.signal = listener.signal := by simpa using List.find?_some hf
    rw [List.inj_on_of_nodup_map distinct (List.mem_of_find?_eq_some hf) h hs]

/-! ## The empty registry -/

/-- An empty registry has no listeners. -/
@[simp]
lemma listenersOf_empty (handle : Handle) : (empty : Registry α).listenersOf handle = [] := by
  simp [listenersOf, empty]

/-- An empty registry tracks nothing. -/
@[simp]
lemma isTracked_empty (handle : Handle) : (empty : Registry α).isTracked handle = false := by
  simp [isTracked, empty]

/-- An empty index knows no token. -/
@[simp]
lemma target?_empty (token : Token) : (empty : Registry α).target? token = none := by
  simp [target?, empty]

/-- An empty registry has no subscriptions. -/
@[simp]
lemma subscriptions_empty : (empty : Registry α).subscriptions = ∅ := rfl

/-! ## Appending a subscriber -/

/-- A listener with one more subscriber, if it listens to the signal. -/
def Listener.extend (signal : Signal) (subscriber : Subscriber α) (listener : Listener α) :
    Listener α :=
  if listener.signal = signal then
    { listener with subscribers := listener.subscribers ++ [subscriber] }
  else listener

/-- Extending a listener does not change its signal. -/
@[simp]
lemma Listener.signal_extend (signal : Signal) (subscriber : Subscriber α)
    (listener : Listener α) :
    (Listener.extend signal subscriber listener).signal = listener.signal := by
  unfold extend
  split <;> rfl

/-- Extending a listener does not change its token. -/
@[simp]
lemma Listener.token_extend (signal : Signal) (subscriber : Subscriber α)
    (listener : Listener α) :
    (Listener.extend signal subscriber listener).token = listener.token := by
  unfold extend
  split <;> rfl

section Append

variable {before after : Registry α} {handle : Handle} {signal : Signal} {callback : Callback α}

/-- There is nothing to append to exactly if the pair has no listener. -/
lemma append?_eq_none_iff :
    before.append? handle signal callback = none ↔ before.listener? handle signal = none := by
  unfold append?
  split <;> simp_all

/-- Appending changes the row of its handle and enrols the new subscriber. -/
lemma append?_eq_some (h : before.append? handle signal callback = some after) :
    (∃ listener, before.listener? handle signal = some listener) ∧
      after =
        { before.enrol handle signal with
          listeners := before.listeners.insert handle
            ((before.listenersOf handle).map
              (Listener.extend signal ⟨before.nextId, callback⟩)) } := by
  unfold append? at h
  split at h
  · cases h
  · rename_i listener hl
    cases h
    exact ⟨⟨listener, hl⟩, rfl⟩

/-- Adding a subscriber extends a listener of its handle, and leaves the other handles alone. -/
lemma listenersOf_append (h : before.append? handle signal callback = some after)
    (other : Handle) :
    after.listenersOf other =
      if other = handle then
        (before.listenersOf handle).map (Listener.extend signal ⟨before.nextId, callback⟩)
      else before.listenersOf other := by
  obtain ⟨-, rfl⟩ := append?_eq_some h
  simp only [listenersOf, Std.ExtTreeMap.getElem?_insert]
  by_cases ho : other = handle
  · simp [ho]
  · simp [ho, Ne.symm ho]

/-- The handle that a subscriber is added to is tracked, like those before. -/
lemma isTracked_append (h : before.append? handle signal callback = some after)
    (other : Handle) :
    after.isTracked other = (decide (other = handle) || before.isTracked other) := by
  obtain ⟨-, rfl⟩ := append?_eq_some h
  by_cases ho : other = handle
  · simp [isTracked, ho]
  · simp [isTracked, Std.ExtTreeMap.contains_insert, ho, Ne.symm ho]

/-- Appending uses up one name and leaves the marks alone. -/
lemma marks_append (h : before.append? handle signal callback = some after) :
    after.retired = before.retired ∧ after.isShutDown = before.isShutDown ∧
      after.nextSubscription = before.nextSubscription + 1 ∧
      after.subscriptions = (before.enrol handle signal).subscriptions ∧
      after.byToken = before.byToken := by
  obtain ⟨-, rfl⟩ := append?_eq_some h
  exact ⟨rfl, rfl, rfl, rfl, rfl⟩

end Append

/-! ## Installing a listener -/

section Install

variable (registry : Registry α) (handle : Handle) (signal : Signal) (token : Token)
  (callback : Callback α)

/-- An installed listener is the last one of its handle. -/
lemma listenersOf_install (other : Handle) :
    (registry.install handle signal token callback).listenersOf other =
      if other = handle then
        registry.listenersOf handle ++ [⟨signal, token, [⟨registry.nextId, callback⟩]⟩]
      else registry.listenersOf other := by
  simp only [listenersOf, install, Std.ExtTreeMap.getElem?_insert]
  by_cases ho : other = handle
  · simp [ho]
  · simp [ho, Ne.symm ho]

/-- The handle that a listener is installed on is tracked, like those before. -/
lemma isTracked_install (other : Handle) :
    (registry.install handle signal token callback).isTracked other =
      (decide (other = handle) || registry.isTracked other) := by
  by_cases ho : other = handle
  · simp [isTracked, install, ho]
  · simp [isTracked, install, Std.ExtTreeMap.contains_insert, ho, Ne.symm ho]

/-- An installed listener is found by its token. -/
lemma target?_install (other : Token) :
    (registry.install handle signal token callback).target? other =
      if other = token then some (handle, signal) else registry.target? other := by
  simp only [target?, install, Std.ExtTreeMap.getElem?_insert]
  by_cases ho : other = token
  · simp [ho]
  · simp [ho, Ne.symm ho]

end Install

/-! ## Enrolling a subscriber -/

/-- The next name is subscribed to the pair of an enrolment. -/
lemma subscriptions_enrol (registry : Registry α) (handle : Handle) (signal : Signal)
    (id : SubscriptionId) :
    (registry.enrol handle signal).subscriptions[id]? =
      if id = registry.nextId then some (handle, signal) else registry.subscriptions[id]? := by
  simp only [enrol, Std.ExtTreeMap.getElem?_insert]
  by_cases hi : id = registry.nextId
  · simp [hi]
  · simp [hi, Ne.symm hi]

/-! ## Releasing a handle -/

section Take

variable (registry : Registry α) (handle : Handle)

/-- What is taken are the listeners of the handle. -/
@[simp]
lemma fst_take : (registry.take handle).1 = registry.listenersOf handle := rfl

/-- No listener is left of a handle that they are taken of. -/
lemma listenersOf_take (other : Handle) :
    (registry.take handle).2.listenersOf other =
      if other = handle then [] else registry.listenersOf other := by
  simp only [listenersOf, take, Std.ExtTreeMap.getElem?_erase]
  by_cases ho : other = handle
  · simp [ho]
  · simp [ho, Ne.symm ho]

/-- A handle that the listeners are taken of is not tracked. -/
lemma isTracked_take (other : Handle) :
    (registry.take handle).2.isTracked other =
      (!decide (other = handle) && registry.isTracked other) := by
  by_cases ho : other = handle
  · simp [isTracked, take, ho]
  · simp [isTracked, take, Std.ExtTreeMap.contains_erase, ho, Ne.symm ho]

/-- The tokens that are taken are known no longer. -/
lemma target?_take (token : Token) :
    (registry.take handle).2.target? token =
      if token ∈ (registry.listenersOf handle).map Listener.token then none
      else registry.target? token :=
  getElem?_foldl_erase _ _ _

/-- The names of the subscribers that are taken are subscribed no longer. -/
lemma subscriptions_take (id : SubscriptionId) :
    (registry.take handle).2.subscriptions[id]? =
      if ∃ listener ∈ registry.listenersOf handle, ∃ subscriber ∈ listener.subscribers,
        subscriber.id = id then none
      else registry.subscriptions[id]? := by
  have h := getElem?_foldl_erase ((registry.listenersOf handle).flatMap fun listener =>
    listener.subscribers.map Subscriber.id) registry.subscriptions id
  simp only [List.mem_flatMap, List.mem_map] at h
  exact h

end Take

/-! ## Removing one subscriber -/

/-- A listener from which a subscriber is taken, if it listens to the signal. -/
def Listener.drop? (signal : Signal) (id : SubscriptionId) (listener : Listener α) :
    Option (Listener α) :=
  if listener.signal = signal then Listener.without? listener id else some listener

/-- What is left of a listener keeps its signal and token, and lacks just the one subscriber. -/
lemma Listener.without?_eq_some {listener left : Listener α} {id : SubscriptionId}
    (h : Listener.without? listener id = some left) :
    left.signal = listener.signal ∧ left.token = listener.token ∧ left.subscribers ≠ [] ∧
      left.subscribers = listener.subscribers.filter fun subscriber => subscriber.id ≠ id := by
  unfold without? at h
  dsimp only at h
  split at h
  · cases h
  · rename_i he
    cases h
    exact ⟨rfl, rfl, fun hn => he (List.isEmpty_iff.2 hn), rfl⟩

/-- Nothing is left of a listener exactly if it had no other subscriber. -/
lemma Listener.without?_eq_none_iff {listener : Listener α} {id : SubscriptionId} :
    Listener.without? listener id = none ↔
      ∀ subscriber ∈ listener.subscribers, subscriber.id = id := by
  simp [without?]

/-- Dropping a name from a listener leaves its signal and token, and some of its subscribers. -/
lemma Listener.drop?_eq_some {listener left : Listener α} {signal : Signal} {id : SubscriptionId}
    (h : Listener.drop? signal id listener = some left) :
    left.signal = listener.signal ∧ left.token = listener.token ∧
      ∀ subscriber ∈ left.subscribers, subscriber ∈ listener.subscribers := by
  unfold drop? at h
  split at h
  · obtain ⟨hs, ht, -, hx⟩ := without?_eq_some h
    exact ⟨hs, ht, fun subscriber hm => (List.mem_filter.1 (hx ▸ hm)).1⟩
  · cases h
    exact ⟨rfl, rfl, fun _ hm => hm⟩

/-- The listeners that are left of a handle have signals in the same order. -/
lemma signals_drop?_sublist (signal : Signal) (id : SubscriptionId)
    (listeners : List (Listener α)) :
    ((listeners.filterMap (Listener.drop? signal id)).map Listener.signal).Sublist
      (listeners.map Listener.signal) := by
  induction listeners with
  | nil => simp
  | cons listener rest ih =>
    cases hd : Listener.drop? signal id listener with
    | none =>
      rw [List.filterMap_cons_none hd]
      exact ih.cons _
    | some left =>
      rw [List.filterMap_cons_some hd, List.map_cons, List.map_cons,
        (Listener.drop?_eq_some hd).1]
      exact ih.cons_cons _

/-- Setting the listeners of a handle sets no others. -/
lemma listenersOf_setListeners (registry : Registry α) (handle : Handle)
    (listeners : List (Listener α)) (other : Handle) :
    (registry.setListeners handle listeners).listenersOf other =
      if other = handle then listeners else registry.listenersOf other := by
  cases listeners with
  | nil =>
    by_cases ho : other = handle
    · simp [listenersOf, setListeners, ho]
    · simp [listenersOf, setListeners, Std.ExtTreeMap.getElem?_erase, ho, Ne.symm ho]
  | cons first rest =>
    by_cases ho : other = handle
    · simp [listenersOf, setListeners, ho]
    · simp [listenersOf, setListeners, Std.ExtTreeMap.getElem?_insert, ho, Ne.symm ho]

/-- A handle without listeners has no row. -/
lemma isTracked_setListeners (registry : Registry α) (handle : Handle)
    (listeners : List (Listener α)) (other : Handle) :
    (registry.setListeners handle listeners).isTracked other =
      if other = handle then !listeners.isEmpty else registry.isTracked other := by
  cases listeners with
  | nil =>
    by_cases ho : other = handle
    · simp [isTracked, setListeners, ho]
    · simp [isTracked, setListeners, Std.ExtTreeMap.contains_erase, ho, Ne.symm ho]
  | cons first rest =>
    by_cases ho : other = handle
    · simp [isTracked, setListeners, ho]
    · simp [isTracked, setListeners, Std.ExtTreeMap.contains_insert, ho, Ne.symm ho]

section Unsubscribe

variable {before after : Registry α} {id : SubscriptionId} {handle : Handle}
  {listener : Listener α} {released : Option Token}
  (hrow : before.subscriptions[id]? = some (handle, listener.signal))
  (hl : before.listener? handle listener.signal = some listener)
  (h : before.unsubscribe? id = some (released, after))

include hrow hl

/-- The removal of a subscriber of a known listener, in one piece. -/
lemma unsubscribe?_eq_some :
    before.unsubscribe? id = some
      (if Listener.without? listener id = none then some listener.token else none,
        { before with
          subscriptions := before.subscriptions.erase id
          byToken :=
            if Listener.without? listener id = none then before.byToken.erase listener.token
            else before.byToken }.setListeners handle
          ((before.listenersOf handle).filterMap (Listener.drop? listener.signal id))) := by
  unfold unsubscribe?
  simp only [hrow, hl]
  cases hw : Listener.without? listener id with
  | none => rfl
  | some left => rfl

include h

/-- The token of the listener is released if nothing is left of it. -/
lemma released_unsubscribe :
    released = if Listener.without? listener id = none then some listener.token else none := by
  rw [unsubscribe?_eq_some hrow hl] at h
  cases h
  rfl

/-- Unsubscribing drops the name from the listeners of its handle. -/
lemma listenersOf_unsubscribe (other : Handle) :
    after.listenersOf other =
      if other = handle then
        (before.listenersOf handle).filterMap (Listener.drop? listener.signal id)
      else before.listenersOf other := by
  rw [unsubscribe?_eq_some hrow hl] at h
  cases h
  exact listenersOf_setListeners _ _ _ _

/-- The handle of an unsubscribed name is tracked as long as a listener is left. -/
lemma isTracked_unsubscribe (other : Handle) :
    after.isTracked other =
      if other = handle then
        !((before.listenersOf handle).filterMap (Listener.drop? listener.signal id)).isEmpty
      else before.isTracked other := by
  rw [unsubscribe?_eq_some hrow hl] at h
  cases h
  exact isTracked_setListeners _ _ _ _

/-- The released token is known no longer. -/
lemma target?_unsubscribe (token : Token) :
    after.target? token = if released = some token then none else before.target? token := by
  rw [unsubscribe?_eq_some hrow hl] at h
  cases h
  dsimp only [target?, setListeners]
  by_cases hw : Listener.without? listener id = none <;> by_cases ht : listener.token = token <;>
    simp [Std.ExtTreeMap.getElem?_erase, hw, ht]

/-- The name is subscribed no longer. -/
lemma subscriptions_unsubscribe (other : SubscriptionId) :
    after.subscriptions[other]? =
      if other = id then none else before.subscriptions[other]? := by
  rw [unsubscribe?_eq_some hrow hl] at h
  cases h
  dsimp only [setListeners]
  by_cases ho : other = id
  · simp [ho]
  · simp [Std.ExtTreeMap.getElem?_erase, ho, Ne.symm ho]

end Unsubscribe

/-- Removing a subscriber leaves the marks and the count of names alone. -/
lemma marks_unsubscribe {before after : Registry α} {id : SubscriptionId}
    {released : Option Token} (h : before.unsubscribe? id = some (released, after)) :
    after.retired = before.retired ∧ after.isShutDown = before.isShutDown ∧
      after.nextSubscription = before.nextSubscription := by
  unfold unsubscribe? at h
  split at h
  · cases h
  · dsimp only at h
    split at h
    · cases h
      exact ⟨rfl, rfl, rfl⟩
    · split at h <;> cases h <;> exact ⟨rfl, rfl, rfl⟩

/-! ## Shutting down -/

/-- No listener is left once the tables are cleared. -/
@[simp]
lemma listenersOf_clear (registry : Registry α) (handle : Handle) :
    registry.clear.2.listenersOf handle = [] := by
  simp [listenersOf, clear]

/-- Nothing is tracked once the tables are cleared. -/
@[simp]
lemma isTracked_clear (registry : Registry α) (handle : Handle) :
    registry.clear.2.isTracked handle = false := by
  simp [isTracked, clear]

/-- No token is known once the tables are cleared. -/
@[simp]
lemma target?_clear (registry : Registry α) (token : Token) :
    registry.clear.2.target? token = none := by
  simp [target?, clear]

/-- Nothing is subscribed once the tables are cleared. -/
@[simp]
lemma subscriptions_clear (registry : Registry α) : registry.clear.2.subscriptions = ∅ := rfl

/-- Shutting down hands back the listeners of all handles. -/
lemma mem_fst_clear {registry : Registry α} {listener : Listener α} :
    listener ∈ registry.clear.1 ↔ ∃ handle, listener ∈ registry.listenersOf handle := by
  simp only [clear, List.mem_flatMap, Prod.exists, Std.ExtTreeMap.mem_toList_iff_getElem?_eq_some,
    listenersOf]
  constructor
  · rintro ⟨handle, row, hrow, hm⟩
    exact ⟨handle, by simpa [hrow] using hm⟩
  · rintro ⟨handle, hm⟩
    cases hrow : registry.listeners[handle]? with
    | none => simp [hrow] at hm
    | some row => exact ⟨handle, row, hrow, by simpa [hrow] using hm⟩

/-! ## The marks -/

/-- Retiring a handle adds it to the retired ones. -/
lemma isRetired_retire (registry : Registry α) (handle other : Handle) :
    (registry.retire handle).2.isRetired other =
      (decide (other = handle) || registry.isRetired other) := by
  by_cases ho : other = handle
  · simp [isRetired, retire, take, ho]
  · simp [isRetired, retire, take, Std.ExtTreeSet.contains_insert, ho, Ne.symm ho]

/-- Reviving a handle takes it from the retired ones. -/
lemma isRetired_revive (registry : Registry α) (handle other : Handle) :
    (registry.revive handle).isRetired other =
      (!decide (other = handle) && registry.isRetired other) := by
  by_cases ho : other = handle
  · simp [isRetired, revive, ho]
  · simp [isRetired, revive, Std.ExtTreeSet.contains_erase, ho, Ne.symm ho]

/-- A registration is admitted exactly if the registry is open and the handle is not retired. -/
lemma check_eq_ok_iff {registry : Registry α} {handle : Handle} :
    registry.check handle = .ok () ↔
      registry.isShutDown = false ∧ registry.isRetired handle = false := by
  unfold check
  cases registry.isShutDown <;> cases registry.isRetired handle <;> simp

end Compositor.Registry
