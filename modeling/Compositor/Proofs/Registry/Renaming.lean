import Compositor.Proofs.Registry.Plain
import Compositor.Proofs.Registry.Retirement
import Compositor.Proofs.Registry.Roster

set_option autoImplicit false

/-!
# Renaming

The names of subscribers and the tokens of native listeners depend on all that happens to a registry,
and nothing that a registry does depends on them, other than whether two of them are the same. So if
two registries tell the same of a handle up to a renaming, they still do after the same step.

## Main definitions

* `Renaming` — new names for subscribers and new tokens for native listeners.
* `Mirrors` — two registries tell the same of a handle, up to a renaming.

## Main results

* `Mirrors.append`, `Mirrors.install`, `Mirrors.take`, `Mirrors.retire`, `Mirrors.unsubscribe`,
  `Mirrors.revive` — they still do after the same step.
* `Mirrors.serveAll` — and after the same callbacks, of which the outside sees the same.
-/

namespace Compositor.Registry

variable {α : Type}

/-- New names for subscribers and new tokens for native listeners. -/
structure Renaming where
  /-- The new name of a subscriber. -/
  ids : SubscriptionId → SubscriptionId
  /-- The new token of a native listener. -/
  tokens : Token → Token

/-- A subscriber under its new name. -/
def Subscriber.rename (names : Renaming) (subscriber : Subscriber α) : Subscriber α :=
  { subscriber with id := names.ids subscriber.id }

/-- A listener under its new token, with its subscribers under their new names. -/
def Listener.rename (names : Renaming) (listener : Listener α) : Listener α :=
  { listener with
    token := names.tokens listener.token
    subscribers := listener.subscribers.map (Subscriber.rename names) }

/-- A reply in new names. -/
def Reply.rename (names : Renaming) : Reply → Reply
  | .subscribed id => .subscribed (names.ids id)
  | .refused refusal => .refused refusal
  | .count n => .count n
  | .truth b => .truth b
  | .done => .done

/-- A sight in new names and tokens. -/
def Sight.rename (names : Renaming) : Sight α → Sight α
  | .connected handle signal token => .connected handle signal (names.tokens token)
  | .disconnected token => .disconnected (names.tokens token)
  | .ran action event => .ran action event
  | .unwound => .unwound
  | .replied reply => .replied (reply.rename names)

/-! ## Renaming listeners -/

section Listeners

variable (names : Renaming)

/-- Renaming a listener does not change its signal. -/
@[simp]
lemma Listener.signal_rename (listener : Listener α) :
    (Listener.rename names listener).signal = listener.signal := rfl

/-- Renaming a listener renames its token. -/
@[simp]
lemma Listener.token_rename (listener : Listener α) :
    (Listener.rename names listener).token = names.tokens listener.token := rfl

/-- A subscriber is appended under its new name. -/
lemma Listener.extend_rename (signal : Signal) (subscriber : Subscriber α)
    (listener : Listener α) :
    Listener.extend signal (Subscriber.rename names subscriber) (Listener.rename names listener) =
      Listener.rename names (Listener.extend signal subscriber listener) := by
  unfold extend
  rw [Listener.signal_rename]
  split
  · simp [rename]
  · rfl

variable {names} (hids : Function.Injective names.ids)

include hids

/-- A subscriber is removed under its new name. -/
lemma Listener.without?_rename (id : SubscriptionId) (listener : Listener α) :
    Listener.without? (Listener.rename names listener) (names.ids id) =
      (Listener.without? listener id).map (Listener.rename names) := by
  have hfilter : (listener.subscribers.map (Subscriber.rename names)).filter
      (fun subscriber => subscriber.id ≠ names.ids id) =
        (listener.subscribers.filter fun subscriber => subscriber.id ≠ id).map
          (Subscriber.rename names) := by
    rw [List.filter_map]
    congr 1
    refine List.filter_congr fun subscriber _ => ?_
    simp [Subscriber.rename, hids.eq_iff]
  unfold without?
  dsimp only [rename]
  rw [hfilter, List.isEmpty_map]
  split <;> rfl

/-- Dropping a renamed name from a renamed listener is dropping the name and renaming what is
left. -/
lemma Listener.drop?_rename (signal : Signal) (id : SubscriptionId) (listener : Listener α) :
    Listener.drop? signal (names.ids id) (Listener.rename names listener) =
      (Listener.drop? signal id listener).map (Listener.rename names) := by
  unfold drop?
  rw [Listener.signal_rename]
  split
  · exact Listener.without?_rename hids id listener
  · rfl

end Listeners

/-! ## Sights -/

section Sights

variable (names : Renaming)

/-- The disconnections of listeners under their new tokens. -/
lemma map_disconnected_rename (listeners : List (Listener α)) :
    (listeners.map (Listener.rename names)).map (fun listener => Sight.disconnected listener.token) =
      (listeners.map fun listener => (Sight.disconnected listener.token : Sight α)).map
        (Sight.rename names) := by
  rw [List.map_map, List.map_map]
  rfl

end Sights

/-! ## Registries that tell the same of a handle -/

/-- Two registries tell the same of a handle, up to a renaming. -/
structure Mirrors (names : Renaming) (handle : Handle) (full kept : Registry α) : Prop where
  /-- The handle has the same listeners, in the same order. -/
  listenersOf_eq :
    full.listenersOf handle = (kept.listenersOf handle).map (Listener.rename names)
  /-- The handle is retired in both or in neither. -/
  isRetired_eq : full.isRetired handle = kept.isRetired handle

/-- A handle has a row exactly if it has listeners. -/
lemma Coherent.isTracked_eq {registry : Registry α} (c : Coherent registry) (handle : Handle) :
    registry.isTracked handle = !(registry.listenersOf handle).isEmpty := by
  cases hl : registry.listenersOf handle with
  | nil =>
    cases ht : registry.isTracked handle with
    | false => rfl
    | true => exact absurd hl (c.listenersOf_ne_nil ht)
  | cons listener rest =>
    have hm : listener ∈ registry.listenersOf handle := by
      rw [hl]
      exact List.mem_cons_self
    rw [isTracked_of_mem hm]
    rfl

namespace Mirrors

variable {names : Renaming} {handle : Handle} {full kept fullAfter keptAfter : Registry α}
  (m : Mirrors names handle full kept)

include m

/-! ### Queries -/

/-- The registry that mirrors another one has its listener of a signal, renamed. -/
lemma listener?_eq (signal : Signal) :
    full.listener? handle signal =
      (kept.listener? handle signal).map (Listener.rename names) := by
  rw [listener?, m.listenersOf_eq, List.find?_map]
  rfl

/-- The registry that mirrors another one has its subscribers of a signal, renamed. -/
lemma subscribersOf_eq (signal : Signal) :
    full.subscribersOf handle signal =
      (kept.subscribersOf handle signal).map (Subscriber.rename names) := by
  unfold subscribersOf
  rw [m.listener?_eq]
  cases kept.listener? handle signal <;> rfl

/-- Callbacks have no names, so the registry that mirrors another one has the same ones. -/
lemma callbacks_eq (signal : Signal) :
    full.callbacks handle signal = kept.callbacks handle signal := by
  rw [callbacks, m.subscribersOf_eq, List.map_map]
  rfl

/-- Renaming changes no number of subscribers. -/
lemma subscriberCount_eq (signal : Signal) :
    full.subscriberCount handle signal = kept.subscriberCount handle signal := by
  rw [subscriberCount, m.subscribersOf_eq, List.length_map, subscriberCount]

/-- Renaming changes no number of listeners. -/
lemma listenerCount_eq : full.listenerCount handle = kept.listenerCount handle := by
  rw [listenerCount, m.listenersOf_eq, List.length_map, listenerCount]

/-- A handle is tracked in both registries or in neither. -/
lemma isTracked_eq (cf : Coherent full) (ck : Coherent kept) :
    full.isTracked handle = kept.isTracked handle := by
  rw [cf.isTracked_eq, ck.isTracked_eq, m.listenersOf_eq, List.isEmpty_map]

/-- Open registries admit the same registrations. -/
lemma check_eq (hf : full.isShutDown = false) (hk : kept.isShutDown = false) :
    full.check handle = kept.check handle := by
  rw [check, check, hf, hk, m.isRetired_eq]

/-! ### Registration -/

section Registration

variable {signal : Signal} {callback : Callback α}

/-- There is a listener to append to in both or in neither. -/
lemma append?_eq_none_iff :
    full.append? handle signal callback = none ↔ kept.append? handle signal callback = none := by
  rw [Registry.append?_eq_none_iff, Registry.append?_eq_none_iff, m.listener?_eq,
    Option.map_eq_none_iff]

variable (hid : names.ids kept.nextId = full.nextId)

include hid

/-- Appending a subscriber to both. -/
lemma append (hf : full.append? handle signal callback = some fullAfter)
    (hk : kept.append? handle signal callback = some keptAfter) :
    Mirrors names handle fullAfter keptAfter where
  listenersOf_eq := by
    have hnew : (⟨full.nextId, callback⟩ : Subscriber α) =
        Subscriber.rename names ⟨kept.nextId, callback⟩ := by rw [Subscriber.rename, hid]
    rw [listenersOf_append hf, listenersOf_append hk, if_pos rfl, if_pos rfl, m.listenersOf_eq,
      hnew, List.map_map, List.map_map]
    exact List.map_congr_left fun listener _ => Listener.extend_rename names _ _ _
  isRetired_eq := by
    rw [isRetired, (marks_append hf).1, isRetired, (marks_append hk).1]
    exact m.isRetired_eq

/-- Installing a listener in both. -/
lemma install {fullToken keptToken : Token} (ht : names.tokens keptToken = fullToken) :
    Mirrors names handle (full.install handle signal fullToken callback)
      (kept.install handle signal keptToken callback) where
  listenersOf_eq := by
    rw [listenersOf_install, listenersOf_install, if_pos rfl, if_pos rfl, m.listenersOf_eq,
      List.map_append, ← hid, ← ht]
    rfl
  isRetired_eq := m.isRetired_eq

end Registration

/-! ### Release -/

/-- Taking the listeners of the handle from both. -/
lemma take : Mirrors names handle (full.take handle).2 (kept.take handle).2 where
  listenersOf_eq := by
    rw [listenersOf_take, listenersOf_take, if_pos rfl, if_pos rfl, List.map_nil]
  isRetired_eq := m.isRetired_eq

/-- Retiring the handle in both. -/
lemma retire : Mirrors names handle (full.retire handle).2 (kept.retire handle).2 where
  listenersOf_eq := by
    rw [listenersOf_retire, listenersOf_retire, if_pos rfl, if_pos rfl, List.map_nil]
  isRetired_eq := by
    rw [isRetired_retire, isRetired_retire, m.isRetired_eq]

/-- Announcing the handle to both. -/
lemma revive : Mirrors names handle (full.revive handle) (kept.revive handle) where
  listenersOf_eq := m.listenersOf_eq
  isRetired_eq := by
    rw [isRetired_revive, isRetired_revive, m.isRetired_eq]

/-- Serving the same callbacks in both, of which the outside sees the same. The callbacks retire no
other handle. -/
lemma serveAll (event : Event) (total : ℕ) (limit : Option ℕ) (callbacks : List (Callback α))
    (hown : ∀ retired, .retire retired ∈ callbacks → retired = handle) :
    (serveAll event total limit callbacks full).1 =
        (serveAll event total limit callbacks kept).1.map (Sight.rename names) ∧
      Mirrors names handle (serveAll event total limit callbacks full).2
        (serveAll event total limit callbacks kept).2 := by
  induction callbacks generalizing full kept limit with
  | nil => exact ⟨rfl, m⟩
  | cons callback rest ih =>
    have hrest := fun retired hm => hown retired (List.mem_cons_of_mem _ hm)
    cases callback with
    | run action =>
      rw [Registry.serveAll, Registry.serveAll]
      split
      · exact ⟨rfl, m⟩
      · obtain ⟨hsights, hmirrors⟩ := ih m (limit.map Nat.pred) hrest
        exact ⟨congrArg (Sight.ran action event :: ·) hsights, hmirrors⟩
    | retire retired =>
      obtain rfl := hown retired List.mem_cons_self
      obtain ⟨hsights, hmirrors⟩ := ih m.retire limit hrest
      refine ⟨?_, hmirrors⟩
      have hfst : ∀ registry : Registry α,
          (registry.retire retired).1 = registry.listenersOf retired := fun _ => rfl
      dsimp only [Registry.serveAll]
      rw [List.map_append, hsights, hfst, hfst, m.listenersOf_eq, map_disconnected_rename]

/-- A subscriber has its new name in the one registry exactly if it has the old name in the other. -/
lemma subscribed_iff (hids : Function.Injective names.ids) {id : SubscriptionId}
    {signal : Signal} :
    full.Subscribed (names.ids id) handle signal ↔ kept.Subscribed id handle signal := by
  unfold Subscribed
  rw [m.listenersOf_eq]
  simp only [List.mem_map, exists_exists_and_eq_and, Listener.rename, Subscriber.rename,
    hids.eq_iff]

section Unsubscribe

variable (cf : Coherent full) (ck : Coherent kept) (hids : Function.Injective names.ids)
  {id : SubscriptionId}
  (hf : ∀ {other signal}, full.Subscribed (names.ids id) other signal → other = handle)
  (hk : ∀ {other signal}, kept.Subscribed id other signal → other = handle)

include cf ck hids hf hk

/-- A subscriber of the handle has the same row in both. -/
lemma subscriptions_eq : full.subscriptions[names.ids id]? = kept.subscriptions[id]? := by
  refine Option.ext fun pair => ?_
  obtain ⟨other, signal⟩ := pair
  rw [cf.subscriptions_eq_some_iff, ck.subscriptions_eq_some_iff]
  constructor
  · intro h
    obtain rfl := hf h
    exact (m.subscribed_iff hids).1 h
  · intro h
    obtain rfl := hk h
    exact (m.subscribed_iff hids).2 h

/-- A subscriber is known to both or to neither. -/
lemma unsubscribe?_eq_none (h : kept.unsubscribe? id = none) :
    full.unsubscribe? (names.ids id) = none := by
  have hsome := isSome_unsubscribe? full (names.ids id)
  rw [m.subscriptions_eq cf ck hids hf hk, ← isSome_unsubscribe?, h] at hsome
  exact Option.isNone_iff_eq_none.1 (by simpa using hsome)

/-- Removing a subscriber of the handle from both. -/
lemma unsubscribe {released : Option Token} (h : kept.unsubscribe? id = some (released, keptAfter)) :
    ∃ fullAfter, full.unsubscribe? (names.ids id) =
        some (released.map names.tokens, fullAfter) ∧
      Mirrors names handle fullAfter keptAfter := by
  obtain ⟨other, listener, -, hrow, hl⟩ := ck.exists_of_unsubscribe? h
  obtain rfl := hk (ck.subscriptions_eq_some_iff.1 hrow)
  have hrow' : full.subscriptions[names.ids id]? =
      some (other, (Listener.rename names listener).signal) := by
    rw [m.subscriptions_eq cf ck hids hf hk, hrow]
    rfl
  have hl' : full.listener? other (Listener.rename names listener).signal =
      some (Listener.rename names listener) := by
    rw [m.listener?_eq, Listener.signal_rename, hl]
    rfl
  have hfull := unsubscribe?_eq_some hrow' hl'
  cases hu : full.unsubscribe? (names.ids id) with
  | none =>
    rw [hu] at hfull
    cases hfull
  | some result =>
    obtain ⟨fullReleased, fullAfter⟩ := result
    have hreleased := released_unsubscribe hrow' hl' hu
    rw [Listener.without?_rename hids] at hreleased
    refine ⟨fullAfter, ?_, ?_, ?_⟩
    · rw [hreleased, released_unsubscribe hrow hl h]
      cases Listener.without? listener id <;> rfl
    · rw [listenersOf_unsubscribe hrow hl h, if_pos rfl, listenersOf_unsubscribe hrow' hl' hu,
        if_pos rfl, m.listenersOf_eq, Listener.signal_rename, List.filterMap_map,
        List.map_filterMap]
      exact List.filterMap_congr fun old _ => Listener.drop?_rename hids _ _ old
    · rw [isRetired, (marks_unsubscribe hu).1, isRetired, (marks_unsubscribe h).1]
      exact m.isRetired_eq

end Unsubscribe

end Mirrors

end Compositor.Registry
