import Compositor.Proofs.Registry.Plain
import Mathlib.Logic.Function.Basic

set_option autoImplicit false

/-!
# Acts

What the outside does with a registry is written down as a list of *acts*, each of which concerns one
handle. An act does not say the names that the registry and the native side choose, since they depend
on what else is done: a registration is given a name of the outside's own, by which later acts on the
same handle refer to its subscriber or to its native listener. So a list of acts means something with
or without the acts on other handles.

The acts are carried out in a plain environment, one after the other.

## Main definitions

* `Act` — what the outside does.
* `Stage`, `perform`, `conduct` — the process with what the outside has noted, one act, and all acts.
* `Act.done` — what an act comes to, in terms of the tables alone.

## Main results

* `perform_eq` — an act comes to what `Act.done` says.
-/

namespace Compositor.Registry

variable {α : Type}

/-- What the outside does. -/
inductive Act (α : Type) where
  /-- Subscribes an action to a signal; the registration is called `name`. -/
  | register (handle : Handle) (name : ℕ) (signal : Signal) (action : α)
  /-- Tracks the lifetime of the handle; the registration is called `name`. -/
  | track (handle : Handle) (name : ℕ) (signal : Signal)
  /-- Emits a signal. After `limit` actions one unwinds, if any does. -/
  | dispatch (handle : Handle) (signal : Signal) (event : Event) (limit : Option ℕ)
  /-- Fires the native listener that the registration called `name` has connected. After `limit`
  actions one unwinds, if any does. -/
  | fire (handle : Handle) (name : ℕ) (event : Event) (limit : Option ℕ)
  /-- Releases all listeners of the handle. -/
  | unregisterAll (handle : Handle)
  /-- Removes the subscriber of the registration called `name`. -/
  | unsubscribe (handle : Handle) (name : ℕ)
  /-- Announces the handle for a new object. -/
  | revive (handle : Handle)
  /-- Asks whether the handle has listeners. -/
  | isTracked (handle : Handle)
  /-- Asks whether the handle is retired. -/
  | isRetired (handle : Handle)
  /-- Asks for the number of listeners of the handle. -/
  | listenerCount (handle : Handle)
  /-- Asks for the number of subscribers of a signal. -/
  | subscriberCount (handle : Handle) (signal : Signal)

/-- The name of a new subscriber, if some sight tells one. -/
def subscribed? (sights : List (Sight α)) : Option SubscriptionId :=
  sights.findSome? fun sight =>
    match sight with
    | .replied (.subscribed id) => some id
    | _ => none

/-- The native listener that was connected, if one was. -/
def connected? (sights : List (Sight α)) : Option Token :=
  sights.findSome? fun sight =>
    match sight with
    | .connected _ _ token => some token
    | _ => none

namespace Act

/-- The handle that an act concerns. -/
def handle : Act α → Handle
  | .register handle _ _ _ => handle
  | .track handle _ _ => handle
  | .dispatch handle _ _ _ => handle
  | .fire handle _ _ _ => handle
  | .unregisterAll handle => handle
  | .unsubscribe handle _ => handle
  | .revive handle => handle
  | .isTracked handle => handle
  | .isRetired handle => handle
  | .listenerCount handle => handle
  | .subscriberCount handle _ => handle

/-- The name that an act gives to its registration. -/
def name? : Act α → Option ℕ
  | .register _ name _ _ => some name
  | .track _ name _ => some name
  | _ => none

/-- Whether an act fires a native listener. -/
def fires : Act α → Bool
  | .fire _ _ _ _ => true
  | _ => false

/-- After how many actions of an act one unwinds, if any does. -/
def limit : Act α → Option ℕ
  | .dispatch _ _ _ limit => limit
  | .fire _ _ _ limit => limit
  | _ => none

/-- The answer to an act that only asks. -/
def query? (registry : Registry α) : Act α → Option Reply
  | .isTracked handle => some (.truth (registry.isTracked handle))
  | .isRetired handle => some (.truth (registry.isRetired handle))
  | .listenerCount handle => some (.count (registry.listenerCount handle))
  | .subscriberCount handle signal => some (.count (registry.subscriberCount handle signal))
  | _ => none

/-- The operation that an act calls, where `notes` tells what was seen of each registration. There
is none if the act refers to a registration without a result. -/
def operation? (notes : ℕ → List (Sight α)) : Act α → Option (Operation α)
  | .register handle _ signal action => some (.register handle signal action)
  | .track handle _ signal => some (.track handle signal)
  | .dispatch handle signal event _ => some (.dispatch handle signal event)
  | .fire _ name event _ => (connected? (notes name)).map fun token => .dispatchNative token event
  | .unregisterAll handle => some (.unregisterAll handle)
  | .unsubscribe _ name => (subscribed? (notes name)).map .unsubscribe
  | .revive handle => some (.revive handle)
  | _ => none

end Act

/-- A process with what the outside has noted. -/
structure Stage (α : Type) where
  /-- The process. -/
  process : Process α
  /-- The number of tokens that the native side has chosen. -/
  chosen : ℕ
  /-- What was seen of each registration, by its handle and name. -/
  notes : Handle → ℕ → List (Sight α)

namespace Stage

/-- The stage before the first act. -/
def initial : Stage α := ⟨.initial, 0, fun _ _ => []⟩

/-- The tables. -/
def registry (stage : Stage α) : Registry α := stage.process.registry

/-- What is noted after an act of which `sights` were seen. -/
def note (stage : Stage α) (act : Act α) (sights : List (Sight α)) : Handle → ℕ → List (Sight α) :=
  match act.name? with
  | some name =>
    Function.update stage.notes act.handle (Function.update (stage.notes act.handle) name sights)
  | none => stage.notes

end Stage

/-- Carries out an act; what was seen of it. -/
def perform (choose : ℕ → Token) (stage : Stage α) (act : Act α) : Stage α × List (Sight α) :=
  match act.query? stage.registry with
  | some reply => (stage, [.replied reply])
  | none =>
    match act.operation? (stage.notes act.handle) with
    | some operation =>
      let called := stage.process.call operation
      let attended := attend choose act.limit called.1 called.2 stage.chosen
      (⟨attended.process, attended.chosen, stage.note act attended.sights⟩, attended.sights)
    | none => (stage, [])

/-- Carries out acts one after the other; what was seen of each. -/
def conduct (choose : ℕ → Token) : Stage α → List (Act α) → List (Act α × List (Sight α))
  | _, [] => []
  | stage, act :: acts =>
    let performed := perform choose stage act
    (act, performed.2) :: conduct choose performed.1 acts

/-! ## What an act comes to -/

/-- What an act comes to. -/
structure Done (α : Type) where
  /-- What was seen of it. -/
  sights : List (Sight α)
  /-- The tables after it. -/
  registry : Registry α
  /-- The number of tokens that the native side has chosen. -/
  chosen : ℕ

section Done

variable (choose : ℕ → Token) (registry : Registry α) (chosen : ℕ)

/-- What a registration comes to. -/
def enrolled (handle : Handle) (signal : Signal) (callback : Callback α) : Done α :=
  match registry.check handle with
  | .error refusal => ⟨[.replied (.refused refusal)], registry, chosen⟩
  | .ok () =>
    match registry.append? handle signal callback with
    | some appended => ⟨[.replied (.subscribed registry.nextId)], appended, chosen⟩
    | none =>
      ⟨[.connected handle signal (choose chosen), .replied (.subscribed registry.nextId)],
        registry.install handle signal (choose chosen) callback, chosen + 1⟩

/-- What a dispatch of callbacks comes to. -/
def served (event : Event) (limit : Option ℕ) (callbacks : List (Callback α)) : Done α :=
  let seen := serveAll event callbacks.length limit callbacks registry
  ⟨seen.1, seen.2, chosen⟩

/-- What releasing a handle comes to. -/
def released (handle : Handle) : Done α :=
  let taken := registry.take handle
  ⟨(taken.1.map Listener.token).map .disconnected ++ [.replied (.count taken.1.length)], taken.2,
    chosen⟩

/-- What firing a native listener comes to, if there is one to fire. -/
def fired (event : Event) (limit : Option ℕ) : Option Token → Done α
  | none => ⟨[], registry, chosen⟩
  | some token =>
    match registry.target? token with
    | some (handle, signal) =>
      served registry chosen event limit (registry.callbacks handle signal)
    | none => ⟨[.replied (.count 0)], registry, chosen⟩

/-- What removing a subscriber comes to, if there is one to remove. -/
def removed : Option SubscriptionId → Done α
  | none => ⟨[], registry, chosen⟩
  | some id =>
    match registry.unsubscribe? id with
    | some (released, after) =>
      ⟨released.toList.map .disconnected ++ [.replied (.truth true)], after, chosen⟩
    | none => ⟨[.replied (.truth false)], registry, chosen⟩

/-- What an act comes to, where `notes` tells what was seen of the registrations on its handle. -/
def Act.done (notes : ℕ → List (Sight α)) : Act α → Done α
  | .register handle _ signal action => enrolled choose registry chosen handle signal (.run action)
  | .track handle _ signal => enrolled choose registry chosen handle signal (.retire handle)
  | .dispatch handle signal event limit =>
    served registry chosen event limit (registry.callbacks handle signal)
  | .fire _ name event limit => fired registry chosen event limit (connected? (notes name))
  | .unregisterAll handle => released registry chosen handle
  | .unsubscribe _ name => removed registry chosen (subscribed? (notes name))
  | .revive handle =>
    ⟨[.replied (.truth (registry.isRetired handle))], registry.revive handle, chosen⟩
  | .isTracked handle => ⟨[.replied (.truth (registry.isTracked handle))], registry, chosen⟩
  | .isRetired handle => ⟨[.replied (.truth (registry.isRetired handle))], registry, chosen⟩
  | .listenerCount handle =>
    ⟨[.replied (.count (registry.listenerCount handle))], registry, chosen⟩
  | .subscriberCount handle signal =>
    ⟨[.replied (.count (registry.subscriberCount handle signal))], registry, chosen⟩

end Done

/-- The stage that an act leads to, if it comes to `done`. -/
def Stage.follow (stage : Stage α) (act : Act α) (done : Done α) : Stage α :=
  ⟨⟨done.registry, stage.process.frames⟩, done.chosen, stage.note act done.sights⟩

section Perform

variable (choose : ℕ → Token) (stage : Stage α)

/-- An act that calls an operation comes to what the operation comes to. -/
lemma perform_of_attend {act : Act α} {operation : Operation α} {done : Done α}
    (hq : act.query? stage.registry = none)
    (ho : act.operation? (stage.notes act.handle) = some operation)
    (ha : attend choose act.limit (stage.process.call operation).1 (stage.process.call operation).2
      stage.chosen = ⟨done.sights, ⟨done.registry, stage.process.frames⟩, done.chosen⟩) :
    perform choose stage act = (stage.follow act done, done.sights) := by
  simp only [perform, hq, ho, ha]
  rfl

/-- An act without an operation comes to nothing. -/
lemma perform_of_operation?_eq_none {act : Act α} (hq : act.query? stage.registry = none)
    (ho : act.operation? (stage.notes act.handle) = none) :
    perform choose stage act = (stage, []) := by
  simp only [perform, hq, ho]

/-- A registration comes to what `enrolled` says. -/
lemma attend_attempt_eq_enrolled (limit : Option ℕ) (handle : Handle) (signal : Signal)
    (callback : Callback α) :
    let attempted :=
      Process.attempt stage.registry stage.process.frames handle signal callback none
    let done := enrolled choose stage.registry stage.chosen handle signal callback
    attend choose limit attempted.1 attempted.2 stage.chosen =
      ⟨done.sights, ⟨done.registry, stage.process.frames⟩, done.chosen⟩ := by
  intro attempted done
  refine (attend_attempt choose limit _ _ _ handle signal callback).trans ?_
  subst done
  unfold enrolled
  cases stage.registry.check handle with
  | error refusal => rfl
  | ok admitted =>
    cases stage.registry.append? handle signal callback <;> rfl

/-- **An act comes to what `Act.done` says.** -/
theorem perform_eq (act : Act α) :
    let done := act.done choose stage.registry stage.chosen (stage.notes act.handle)
    perform choose stage act = (stage.follow act done, done.sights) := by
  cases act with
  | register handle name signal action =>
    exact perform_of_attend choose stage rfl rfl (attend_attempt_eq_enrolled choose stage _ _ _ _)
  | track handle name signal =>
    exact perform_of_attend choose stage rfl rfl (attend_attempt_eq_enrolled choose stage _ _ _ _)
  | dispatch handle signal event limit =>
    exact perform_of_attend choose stage rfl rfl (attend_serve choose limit _ _ _ event _ _)
  | fire handle name event limit =>
    dsimp only [Act.done, Act.handle]
    cases hc : connected? (stage.notes handle name) with
    | none =>
      exact perform_of_operation?_eq_none choose stage rfl (by simp [Act.operation?, Act.handle, hc])
    | some token =>
      have ho : (Act.fire handle name event limit : Act α).operation? (stage.notes handle) =
          some (.dispatchNative token event) := by simp [Act.operation?, hc]
      refine perform_of_attend choose stage rfl ho ?_
      dsimp only [Process.call, fired, Stage.registry]
      cases stage.process.registry.target? token with
      | none => exact attend_answered choose limit _ _ _
      | some target => exact attend_serve choose limit _ _ _ event _ _
  | unregisterAll handle =>
    exact perform_of_attend choose stage rfl rfl (attend_release_reply choose _ _ _ _ _ _)
  | unsubscribe handle name =>
    dsimp only [Act.done, Act.handle]
    cases hs : subscribed? (stage.notes handle name) with
    | none =>
      exact perform_of_operation?_eq_none choose stage rfl (by simp [Act.operation?, Act.handle, hs])
    | some id =>
      have ho : (Act.unsubscribe handle name : Act α).operation? (stage.notes handle) =
          some (.unsubscribe id) := by simp [Act.operation?, hs]
      refine perform_of_attend choose stage rfl ho ?_
      dsimp only [Process.call, removed, Stage.registry]
      cases stage.process.registry.unsubscribe? id with
      | none => exact attend_answered choose none _ _ _
      | some result => exact attend_release_reply choose none _ _ _ _ _
  | revive handle => exact perform_of_attend choose stage rfl rfl (attend_answered choose none _ _ _)
  | isTracked handle => rfl
  | isRetired handle => rfl
  | listenerCount handle => rfl
  | subscriberCount handle signal => rfl

end Perform

end Compositor.Registry
