import Compositor.Event
import Compositor.Registry.Basic

set_option autoImplicit false

/-!
# Registry operations and re-entrance

The registry is not alone: connecting or disconnecting a native listener and running an action are
done by its *environment*, and while the environment is at it, it may call the registry again. An
operation is therefore not one step. It runs until it needs the environment and waits in a *frame*;
the environment moves by calling another operation or by answering the newest frame. The state of
the whole is a `Process`: the tables and the stack of waiting frames. Between two moves of the
environment the tables are at rest.

## Main definitions

* `Operation`, `Reply` — what the environment may call, and what it gets back.
* `Demand` — what an operation needs the environment for.
* `Frame` — an operation that waits for the environment.
* `Process`, `Process.step` — the state, and what happens on a move of the environment.
-/

namespace Compositor.Registry

/-- A call of the registry. -/
inductive Operation (α : Type) where
  /-- Subscribes an action to a signal of a handle. -/
  | register (handle : Handle) (signal : Signal) (action : α)
  /-- Releases all listeners of a handle, and retires it, when the signal fires. -/
  | track (handle : Handle) (signal : Signal)
  /-- Serves the subscribers of a signal of a handle. -/
  | dispatch (handle : Handle) (signal : Signal) (event : Event)
  /-- Serves the subscribers of a native listener. -/
  | dispatchNative (token : Token) (event : Event)
  /-- Releases all listeners of a handle. -/
  | unregisterAll (handle : Handle)
  /-- Removes one subscriber. -/
  | unsubscribe (id : SubscriptionId)
  /-- Takes back the mark of a destroyed handle. -/
  | revive (handle : Handle)
  /-- Releases everything and refuses further work. -/
  | shutdown

/-- The result of an operation. -/
inductive Reply where
  /-- The name of a new subscriber. -/
  | subscribed (id : SubscriptionId)
  /-- A registration was refused. -/
  | refused (refusal : Refusal)
  /-- A number of callbacks or listeners. -/
  | count (n : Nat)
  /-- A truth value. -/
  | truth (b : Bool)
  /-- Nothing. -/
  | done
deriving DecidableEq

/-- What an operation needs the environment for. -/
inductive Demand (α : Type) where
  /-- To connect a native listener to a signal of a handle. -/
  | connect (handle : Handle) (signal : Signal)
  /-- To disconnect a native listener. -/
  | disconnect (token : Token)
  /-- To run an action of a subscriber. -/
  | run (action : α) (event : Event)

/-- What an operation does after its last listener was disconnected. -/
inductive Sequel (α : Type) where
  /-- It ends. -/
  | reply (reply : Reply)
  /-- It serves the remaining subscribers of a dispatch to `total` of them. -/
  | serve (rest : List (Callback α)) (event : Event) (total : Nat)

/-- An operation that waits for the environment. -/
inductive Frame (α : Type) where
  /-- A registration waits for a native listener. -/
  | connecting (handle : Handle) (signal : Signal) (callback : Callback α)
  /-- A listener is being disconnected; the `rest` is still to be. -/
  | releasing (rest : List Token) (sequel : Sequel α)
  /-- An action is running; the `rest` of the callbacks is still to be served. -/
  | running (rest : List (Callback α)) (event : Event) (total : Nat)

/-- The tables and the waiting operations, newest first. -/
structure Process (α : Type) where
  /-- The tables. -/
  registry : Registry α
  /-- The waiting operations. -/
  frames : List (Frame α)

/-- How a move of the environment ends. -/
inductive Outcome (α : Type) where
  /-- An operation ended. -/
  | answered (reply : Reply)
  /-- An operation waits for the environment. -/
  | demands (demand : Demand α)

/-- A move of the environment. -/
inductive Move (α : Type) where
  /-- It calls an operation. -/
  | call (operation : Operation α)
  /-- It answers the demand for a native listener. -/
  | connected (token : Token)
  /-- It has disconnected a listener or run an action. -/
  | finished

namespace Process

variable {α : Type}

/-- The process before the first call. -/
def initial : Process α := ⟨Registry.empty, []⟩

/-- Serves callbacks in turn. Retiring a handle is done here, running an action is not. -/
def serve (registry : Registry α) (frames : List (Frame α)) (event : Event) (total : Nat) :
    List (Callback α) → Process α × Outcome α
  | [] => (⟨registry, frames⟩, .answered (.count total))
  | .run action :: rest =>
    (⟨registry, .running rest event total :: frames⟩, .demands (.run action event))
  | .retire handle :: rest =>
    let taken := registry.retire handle
    match taken.1.map Listener.token with
    | [] => serve taken.2 frames event total rest
    | token :: tokens =>
      (⟨taken.2, .releasing tokens (.serve rest event total) :: frames⟩,
        .demands (.disconnect token))

/-- Disconnects listeners in turn, then goes on. -/
def release (registry : Registry α) (frames : List (Frame α)) (sequel : Sequel α) :
    List Token → Process α × Outcome α
  | token :: tokens =>
    (⟨registry, .releasing tokens sequel :: frames⟩, .demands (.disconnect token))
  | [] =>
    match sequel with
    | .reply reply => (⟨registry, frames⟩, .answered reply)
    | .serve rest event total => serve registry frames event total rest

/-- One round of a registration. A pair that has a listener gets one more subscriber; otherwise a
native listener is connected, which the next round installs. A listener that was connected in vain,
because the registration is refused or the pair got one meanwhile, is disconnected. -/
def attempt (registry : Registry α) (frames : List (Frame α)) (handle : Handle) (signal : Signal)
    (callback : Callback α) (connected : Option Token) : Process α × Outcome α :=
  match registry.check handle with
  | .error refusal => release registry frames (.reply (.refused refusal)) connected.toList
  | .ok () =>
    match registry.append? handle signal callback with
    | some appended =>
      release appended frames (.reply (.subscribed registry.nextId)) connected.toList
    | none =>
      match connected with
      | none =>
        (⟨registry, .connecting handle signal callback :: frames⟩,
          .demands (.connect handle signal))
      | some token =>
        (⟨registry.install handle signal token callback, frames⟩,
          .answered (.subscribed registry.nextId))

/-- The first step of an operation. -/
def call (process : Process α) : Operation α → Process α × Outcome α
  | .register handle signal action =>
    attempt process.registry process.frames handle signal (.run action) none
  | .track handle signal =>
    attempt process.registry process.frames handle signal (.retire handle) none
  | .dispatch handle signal event =>
    let callbacks := process.registry.callbacks handle signal
    serve process.registry process.frames event callbacks.length callbacks
  | .dispatchNative token event =>
    match process.registry.target? token with
    | some (handle, signal) =>
      let callbacks := process.registry.callbacks handle signal
      serve process.registry process.frames event callbacks.length callbacks
    | none => (process, .answered (.count 0))
  | .unregisterAll handle =>
    let taken := process.registry.take handle
    release taken.2 process.frames (.reply (.count taken.1.length)) (taken.1.map Listener.token)
  | .unsubscribe id =>
    match process.registry.unsubscribe? id with
    | some (released, registry) =>
      release registry process.frames (.reply (.truth true)) released.toList
    | none => (process, .answered (.truth false))
  | .revive handle =>
    (⟨process.registry.revive handle, process.frames⟩,
      .answered (.truth (process.registry.isRetired handle)))
  | .shutdown =>
    let cleared := process.registry.clear
    release cleared.2 process.frames (.reply .done) (cleared.1.map Listener.token)

/-- What happens on a move of the environment. A move that answers another demand than the newest
one is not possible. -/
def step (process : Process α) : Move α → Option (Process α × Outcome α)
  | .call operation => some (process.call operation)
  | .connected token =>
    match process.frames with
    | .connecting handle signal callback :: frames =>
      some (attempt process.registry frames handle signal callback (some token))
    | _ => none
  | .finished =>
    match process.frames with
    | .releasing rest sequel :: frames => some (release process.registry frames sequel rest)
    | .running rest event total :: frames =>
      some (serve process.registry frames event total rest)
    | _ => none

end Process

end Compositor.Registry
