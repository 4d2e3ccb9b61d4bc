import Compositor.Registry.Process

set_option autoImplicit false

/-!
# Scripted environments

An environment of the registry whose part is written down beforehand: an action is a label with a
list of further steps, and single calls of the native side can be given steps of their own. The
native side numbers its listeners and keeps a list of the live ones, and everything that the
registry asks for is put on record.

## Main definitions

* `Script`, `Step` — a labelled list of steps, and the steps.
* `Scenario` — the registry with its scripted environment.
* `Scenario.perform` — performs one step with everything that follows from it.
-/

namespace Compositor.Registry

/-- The two calls of the native side. -/
inductive NativeCall where
  /-- A listener is connected. -/
  | connect
  /-- A listener is disconnected. -/
  | disconnect
deriving DecidableEq

/-- One step of a script. -/
inductive Step where
  /-- Registers an action that is recorded by its label and then performs its own steps. -/
  | register (handle : Handle) (signal : Signal) (label : String) (steps : List Step)
  /-- Tracks the lifetime of a handle. -/
  | track (handle : Handle) (signal : Signal)
  /-- Emits a signal. -/
  | dispatch (handle : Handle) (signal : Signal) (event : Event)
  /-- Fires a native listener. -/
  | dispatchNative (token : Token) (event : Event)
  /-- Releases all listeners of a handle. -/
  | unregisterAll (handle : Handle)
  /-- Removes a subscriber. -/
  | unsubscribe (id : SubscriptionId)
  /-- Revives a handle. -/
  | revive (handle : Handle)
  /-- Asks whether a handle has listeners. -/
  | isTracked (handle : Handle)
  /-- Asks whether a handle is retired. -/
  | isRetired (handle : Handle)
  /-- Asks for the number of listeners of a handle. -/
  | listenerCount (handle : Handle)
  /-- Asks for the number of subscribers of a signal. -/
  | subscriberCount (handle : Handle) (signal : Signal)
  /-- Shuts the registry down. -/
  | shutdown
  /-- Lets the next native call of a kind, for a handle and signal, perform steps of its own. -/
  | hook (native : NativeCall) (handle : Handle) (signal : Signal) (steps : List Step)

/-- An action: its label and its steps. -/
structure Script where
  /-- The label under which the action is recorded. -/
  label : String
  /-- What the action does. -/
  steps : List Step

/-- Something that went on record. -/
inductive Entry where
  /-- A listener was connected. -/
  | connected (handle : Handle) (signal : Signal) (token : Token)
  /-- A listener was disconnected. -/
  | disconnected (token : Token)
  /-- An action was run. -/
  | called (label : String) (event : Event)
  /-- A step of a script ended. -/
  | did (step : Step) (reply : Reply)

/-- The token of a disconnection. -/
def Entry.disconnected? : Entry → Option Token
  | .disconnected token => some token
  | _ => none

/-- Steps that wait for a native call. -/
structure Hook where
  /-- The kind of call. -/
  native : NativeCall
  /-- The handle it is made for. -/
  handle : Handle
  /-- The signal it is made for. -/
  signal : Signal
  /-- What is done then. -/
  steps : List Step

/-- A live native listener. -/
structure LiveListener where
  /-- Its name. -/
  token : Token
  /-- The handle it is connected to. -/
  handle : Handle
  /-- The signal it is connected to. -/
  signal : Signal

/-- The registry with its scripted environment. -/
structure Scenario where
  /-- The registry. -/
  process : Process Script
  /-- The native listeners that are connected, in the order of connection. -/
  live : List LiveListener
  /-- The number of native listeners connected so far. -/
  connections : Nat
  /-- The waiting hooks, oldest first. -/
  hooks : List Hook
  /-- What went on record, newest first. -/
  record : List Entry

namespace Scenario

/-- The scenario before its first step. -/
def initial : Scenario := ⟨Process.initial, [], 0, [], []⟩

/-- Puts something on record. -/
def note (scenario : Scenario) (entry : Entry) : Scenario :=
  { scenario with record := entry :: scenario.record }

/-- Takes the first hook of a native call; its steps, if there is one. -/
def takeHook (scenario : Scenario) (native : NativeCall) (handle : Handle) (signal : Signal) :
    List Step × Scenario :=
  let fits := fun (hook : Hook) =>
    decide (hook.native = native ∧ hook.handle = handle ∧ hook.signal = signal)
  match scenario.hooks.find? fits with
  | some hook => (hook.steps, { scenario with hooks := scenario.hooks.eraseP fits })
  | none => ([], scenario)

/-- Connects the next native listener. -/
def connect (scenario : Scenario) (handle : Handle) (signal : Signal) : Token × Scenario :=
  let token := Token.mk (scenario.connections + 1)
  let connected : Scenario :=
    { scenario with
      live := scenario.live ++ [⟨token, handle, signal⟩]
      connections := scenario.connections + 1 }
  (token, connected.note (.connected handle signal token))

/-- Disconnects a native listener and takes the hook of the call. -/
def disconnect (scenario : Scenario) (token : Token) : List Step × Scenario :=
  let fits := fun (listener : LiveListener) => decide (listener.token = token)
  let disconnected :=
    { scenario with live := scenario.live.eraseP fits }.note (.disconnected token)
  match scenario.live.find? fits with
  | some listener => disconnected.takeHook .disconnect listener.handle listener.signal
  | none => ([], disconnected)

/-- Orders what a shutdown put on record after the first `before` entries. The handles are visited
in no particular order, so plain disconnections are given by token. -/
def orderReleases (before : Nat) (scenario : Scenario) : Scenario :=
  let recent := scenario.record.take (scenario.record.length - before)
  match recent.mapM Entry.disconnected? with
  | some tokens =>
    let descending := tokens.mergeSort fun a b => decide (b.number ≤ a.number)
    { scenario with
      record := descending.map Entry.disconnected ++ scenario.record.drop recent.length }
  | none => scenario

mutual

/-- Performs a step. There is no result if the nesting does not end within the budget. -/
def perform : Nat → Step → Scenario → Option (Reply × Scenario)
  | 0, _, _ => none
  | budget + 1, step, scenario =>
    let registry := scenario.process.registry
    match step with
    | .register handle signal label steps =>
      call budget (.register handle signal ⟨label, steps⟩) scenario
    | .track handle signal => call budget (.track handle signal) scenario
    | .dispatch handle signal event => call budget (.dispatch handle signal event) scenario
    | .dispatchNative token event => call budget (.dispatchNative token event) scenario
    | .unregisterAll handle => call budget (.unregisterAll handle) scenario
    | .unsubscribe id => call budget (.unsubscribe id) scenario
    | .revive handle => call budget (.revive handle) scenario
    | .shutdown =>
      (call budget .shutdown scenario).map fun ended =>
        (ended.1, ended.2.orderReleases scenario.record.length)
    | .isTracked handle => some (.truth (registry.isTracked handle), scenario)
    | .isRetired handle => some (.truth (registry.isRetired handle), scenario)
    | .listenerCount handle => some (.count (registry.listenerCount handle), scenario)
    | .subscriberCount handle signal =>
      some (.count (registry.subscriberCount handle signal), scenario)
    | .hook native handle signal steps =>
      some (.done, { scenario with hooks := scenario.hooks ++ [⟨native, handle, signal, steps⟩] })

/-- Calls an operation and sees it through. -/
def call : Nat → Operation Script → Scenario → Option (Reply × Scenario)
  | 0, _, _ => none
  | budget + 1, operation, scenario => move budget (.call operation) scenario

/-- Makes a move and meets the demands that follow until an operation ends. -/
def move : Nat → Move Script → Scenario → Option (Reply × Scenario)
  | 0, _, _ => none
  | budget + 1, next, scenario =>
    match scenario.process.step next with
    | none => none
    | some (process, outcome) =>
      let moved := { scenario with process }
      match outcome with
      | .answered reply => some (reply, moved)
      | .demands (.connect handle signal) =>
        let connected := moved.connect handle signal
        let hooked := connected.2.takeHook .connect handle signal
        match performAll budget hooked.1 hooked.2 with
        | some ready => move budget (.connected connected.1) ready
        | none => none
      | .demands (.disconnect token) =>
        let disconnected := moved.disconnect token
        match performAll budget disconnected.1 disconnected.2 with
        | some ready => move budget .finished ready
        | none => none
      | .demands (.run script event) =>
        match performAll budget script.steps (moved.note (.called script.label event)) with
        | some ready => move budget .finished ready
        | none => none

/-- Performs steps in turn and puts the result of each on record. -/
def performAll : Nat → List Step → Scenario → Option Scenario
  | 0, _, _ => none
  | _, [], scenario => some scenario
  | budget + 1, step :: rest, scenario =>
    match perform budget step scenario with
    | some (reply, ended) => performAll budget rest (ended.note (.did step reply))
    | none => none

end

end Scenario

end Compositor.Registry
