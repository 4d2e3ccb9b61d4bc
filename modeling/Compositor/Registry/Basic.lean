import Compositor.Handle
import Std.Data.ExtTreeMap
import Std.Data.ExtTreeSet

set_option autoImplicit false

/-!
# The listener registry

The toolkit frees its objects on its own schedule, so every native listener must be released no
later than the destroy signal of its object. The registry owns the listeners: one native listener
for each pair of a handle and a signal that has subscribers, however many there are. Subscribers
are served in the order of their registration. A handle whose destruction was observed is
*retired*: it refuses registrations until the value is announced for a new object.

This module has the tables and the steps that read or change them without leaving them, so each
step here is atomic. Connecting and disconnecting native listeners happens between such steps.

## Main definitions

* `Token`, `SubscriptionId` — the names of native listeners and of subscribers.
* `Callback` — retiring a handle, or an action of the owner.
* `Registry` — the tables.
* `Registry.check`, `Registry.append?`, `Registry.install` — the steps of a registration.
* `Registry.take`, `Registry.retire`, `Registry.unsubscribe?`, `Registry.clear` — the steps that
  release listeners; each hands back the listeners to disconnect.
* `Registry.callbacks`, `Registry.target?` — what a dispatch runs.
-/

namespace Compositor

/-- The name of a native listener, chosen by the toolkit. -/
structure Token where
  /-- The number. -/
  number : Nat
deriving DecidableEq, Inhabited

namespace Token

/-- Listeners are ordered by number. -/
instance : Ord Token := ⟨compareOn Token.number⟩

instance : Std.TransOrd Token := inferInstanceAs (Std.TransCmp (compareOn Token.number))

instance : Std.LawfulEqOrd Token where
  eq_of_compare {a b} h := by
    cases a
    cases b
    congr
    exact Std.LawfulEqOrd.eq_of_compare h

end Token

/-- The name of a subscriber. -/
structure SubscriptionId where
  /-- The number; each registry counts from zero. -/
  number : Nat
deriving DecidableEq, Inhabited

namespace SubscriptionId

/-- Subscribers are ordered by number, which is the order of their registration. -/
instance : Ord SubscriptionId := ⟨compareOn SubscriptionId.number⟩

instance : Std.TransOrd SubscriptionId :=
  inferInstanceAs (Std.TransCmp (compareOn SubscriptionId.number))

instance : Std.LawfulEqOrd SubscriptionId where
  eq_of_compare {a b} h := by
    cases a
    cases b
    congr
    exact Std.LawfulEqOrd.eq_of_compare h

end SubscriptionId

/-- Why a registration was refused. -/
inductive Refusal where
  /-- The handle's object has been destroyed. -/
  | handleRetired (handle : Handle)
  /-- The registry was shut down. -/
  | shutDown
deriving DecidableEq

/-- The diagnostic of a refusal. -/
def Refusal.message : Refusal → String
  | handleRetired handle => "handle " ++ handle.text ++ " has already been destroyed"
  | shutDown => "event registry has been shut down"

/-- What a subscriber has done when its signal fires. -/
inductive Callback (α : Type) where
  /-- Retires a handle and releases all its listeners. -/
  | retire (handle : Handle)
  /-- Runs an action of the registry's owner. -/
  | run (action : α)
deriving DecidableEq

/-- A subscriber. -/
structure Subscriber (α : Type) where
  /-- Its name. -/
  id : SubscriptionId
  /-- What it has done. -/
  callback : Callback α

/-- A native listener with those it serves. -/
structure Listener (α : Type) where
  /-- The signal it listens to. -/
  signal : Signal
  /-- Its name on the native side. -/
  token : Token
  /-- Its subscribers, in the order of registration. -/
  subscribers : List (Subscriber α)

/-- The tables of all listeners. -/
structure Registry (α : Type) where
  /-- The listeners of each handle that has any. -/
  listeners : Std.ExtTreeMap Handle (List (Listener α))
  /-- The handle and signal of each native listener. -/
  byToken : Std.ExtTreeMap Token (Handle × Signal)
  /-- The handle and signal of each subscriber. -/
  subscriptions : Std.ExtTreeMap SubscriptionId (Handle × Signal)
  /-- The handles whose destruction was observed. -/
  retired : Std.ExtTreeSet Handle
  /-- The number of the next subscriber. It is not bounded: a counter of 64 bits is not used up
  within the life of a process. -/
  nextSubscription : Nat
  /-- Whether the registry refuses all further work. -/
  isShutDown : Bool

namespace Registry

variable {α : Type}

/-- The registry without listeners. -/
def empty : Registry α := ⟨∅, ∅, ∅, ∅, 0, false⟩

/-! ## Queries -/

/-- The listeners of a handle. -/
def listenersOf (registry : Registry α) (handle : Handle) : List (Listener α) :=
  registry.listeners[handle]?.getD []

/-- The listener of a handle for a signal. -/
def listener? (registry : Registry α) (handle : Handle) (signal : Signal) : Option (Listener α) :=
  (registry.listenersOf handle).find? fun listener => listener.signal = signal

/-- The subscribers of a handle and signal. -/
def subscribersOf (registry : Registry α) (handle : Handle) (signal : Signal) :
    List (Subscriber α) :=
  match registry.listener? handle signal with
  | some listener => listener.subscribers
  | none => []

/-- The callbacks that a signal of a handle runs, in the order of registration. -/
def callbacks (registry : Registry α) (handle : Handle) (signal : Signal) : List (Callback α) :=
  (registry.subscribersOf handle signal).map Subscriber.callback

/-- The handle and signal for which a native listener is installed. -/
def target? (registry : Registry α) (token : Token) : Option (Handle × Signal) :=
  registry.byToken[token]?

/-- Whether a handle has a listener. -/
def isTracked (registry : Registry α) (handle : Handle) : Bool :=
  registry.listeners.contains handle

/-- Whether the destruction of a handle was observed. -/
def isRetired (registry : Registry α) (handle : Handle) : Bool :=
  registry.retired.contains handle

/-- The number of listeners of a handle. -/
def listenerCount (registry : Registry α) (handle : Handle) : Nat :=
  (registry.listenersOf handle).length

/-- The number of subscribers of a handle and signal. -/
def subscriberCount (registry : Registry α) (handle : Handle) (signal : Signal) : Nat :=
  (registry.subscribersOf handle signal).length

/-! ## Registration -/

/-- Whether a registration on a handle is admitted. A shut-down registry is reported first. -/
def check (registry : Registry α) (handle : Handle) : Except Refusal Unit :=
  if registry.isShutDown then .error .shutDown
  else if registry.isRetired handle then .error (.handleRetired handle)
  else .ok ()

/-- The name that the next subscriber gets. -/
def nextId (registry : Registry α) : SubscriptionId :=
  ⟨registry.nextSubscription⟩

/-- Uses up the next name for a subscriber of a handle and signal. -/
def enrol (registry : Registry α) (handle : Handle) (signal : Signal) : Registry α :=
  { registry with
    subscriptions := registry.subscriptions.insert registry.nextId (handle, signal)
    nextSubscription := registry.nextSubscription + 1 }

/-- Appends a subscriber to the listener of a handle for a signal, if there is one. -/
def append? (registry : Registry α) (handle : Handle) (signal : Signal) (callback : Callback α) :
    Option (Registry α) :=
  match registry.listener? handle signal with
  | none => none
  | some _ =>
    let subscriber := Subscriber.mk registry.nextId callback
    let extended := (registry.listenersOf handle).map fun listener =>
      if listener.signal = signal then
        { listener with subscribers := listener.subscribers ++ [subscriber] }
      else listener
    some { registry.enrol handle signal with
      listeners := registry.listeners.insert handle extended }

/-- Installs a new listener with one subscriber. -/
def install (registry : Registry α) (handle : Handle) (signal : Signal) (token : Token)
    (callback : Callback α) : Registry α :=
  let listener := Listener.mk signal token [⟨registry.nextId, callback⟩]
  { registry.enrol handle signal with
    listeners := registry.listeners.insert handle (registry.listenersOf handle ++ [listener])
    byToken := registry.byToken.insert token (handle, signal) }

/-- Takes back the mark of a destroyed handle, since its value was announced for a new object. -/
def revive (registry : Registry α) (handle : Handle) : Registry α :=
  { registry with retired := registry.retired.erase handle }

/-! ## Release -/

/-- Removes all listeners of a handle and hands them back. -/
def take (registry : Registry α) (handle : Handle) : List (Listener α) × Registry α :=
  let taken := registry.listenersOf handle
  let ids := taken.flatMap fun listener => listener.subscribers.map Subscriber.id
  (taken,
    { registry with
      listeners := registry.listeners.erase handle
      byToken := (taken.map Listener.token).foldl (fun table token => table.erase token)
        registry.byToken
      subscriptions := ids.foldl (fun table id => table.erase id) registry.subscriptions })

/-- Marks a handle as destroyed, removes all its listeners and hands them back. -/
def retire (registry : Registry α) (handle : Handle) : List (Listener α) × Registry α :=
  { registry with retired := registry.retired.insert handle }.take handle

/-- A listener without one subscriber, if any other is left. -/
def Listener.without? (listener : Listener α) (id : SubscriptionId) : Option (Listener α) :=
  let left := listener.subscribers.filter fun subscriber => subscriber.id ≠ id
  if left.isEmpty then none else some { listener with subscribers := left }

/-- Sets the listeners of a handle; a handle without listeners has no row. -/
def setListeners (registry : Registry α) (handle : Handle) (listeners : List (Listener α)) :
    Registry α :=
  { registry with
    listeners :=
      if listeners.isEmpty then registry.listeners.erase handle
      else registry.listeners.insert handle listeners }

/-- Removes one subscriber, and its listener with the last one. Hands back the listener to
disconnect, if there is one. There is no result for an unknown name. -/
def unsubscribe? (registry : Registry α) (id : SubscriptionId) :
    Option (Option Token × Registry α) :=
  match registry.subscriptions[id]? with
  | none => none
  | some (handle, signal) =>
    let forgotten := { registry with subscriptions := registry.subscriptions.erase id }
    match registry.listener? handle signal with
    | none => some (none, forgotten)
    | some listener =>
      let left := (registry.listenersOf handle).filterMap fun other =>
        if other.signal = signal then Listener.without? other id else some other
      let changed := forgotten.setListeners handle left
      match Listener.without? listener id with
      | some _ => some (none, changed)
      | none =>
        some (some listener.token, { changed with byToken := changed.byToken.erase listener.token })

/-- Shuts the registry down and hands back every listener, handle by handle. -/
def clear (registry : Registry α) : List (Listener α) × Registry α :=
  (registry.listeners.toList.flatMap Prod.snd,
    { registry with
      listeners := ∅
      byToken := ∅
      subscriptions := ∅
      retired := ∅
      isShutDown := true })

/-- The structural text of a registry: the sizes of its tables. -/
def describe (registry : Registry α) : String :=
  Structural.record "EventRegistry"
    [("handles", toString registry.listeners.size),
      ("subscriptions", toString registry.subscriptions.size),
      ("retired", toString registry.retired.size),
      ("shut_down", Structural.truth registry.isShutDown)]

end Registry

end Compositor
