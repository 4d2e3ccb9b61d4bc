import Compositor.Config.Schema
import Compositor.Fault
import Compositor.Grab
import Compositor.KeyBindings
import Compositor.Toolkit
import Compositor.WindowTable

set_option autoImplicit false

/-!
# The server

The state of the compositor: the toolkit, the registry of its listeners, the windows, the grab, the
input devices and outputs. Everything that the server asks of the toolkit goes into a journal.

## Main definitions

* `Handler` — what the server has subscribed to signals.
* `Record` — one entry of the journal.
* `Server` — the state.
* `Outcome` — the end of an operation: a result or a fault, and the state that is left.
* `Server.perform`, `Server.register`, `Server.listenAll`, `Server.releaseAll` — the steps in which
  the server acts on the toolkit and its registry.
-/

namespace Compositor

/-- What is done when a signal fires. A handler knows the object it was subscribed for. -/
inductive Handler where
  /-- Brings an output up. -/
  | newOutput
  /-- Attaches an input device. -/
  | newInput
  /-- Creates a window. -/
  | newToplevel
  /-- Creates a popup. -/
  | newPopup
  /-- Moves the cursor by an offset. -/
  | motion
  /-- Moves the cursor to a place. -/
  | motionAbsolute
  /-- Forwards a button and handles focus and grabs. -/
  | button
  /-- Forwards a scroll event. -/
  | axis
  /-- Forwards the end of a group of pointer events. -/
  | pointerFrame
  /-- Handles a client's cursor image. -/
  | requestSetCursor
  /-- Makes a window visible. -/
  | map (window : WindowId)
  /-- Makes a window invisible. -/
  | unmap (window : WindowId)
  /-- Takes note of a window's committed state. -/
  | commit (window : WindowId)
  /-- Destroys a window. -/
  | toplevelDestroyed (window : WindowId)
  /-- Begins a move of a window. -/
  | requestMove (window : WindowId)
  /-- Begins a resize of a window. -/
  | requestResize (window : WindowId)
  /-- Configures a popup after its first commit. -/
  | popupCommit (popup : Handle)
  /-- Renders a frame of an output. -/
  | frame (output : Handle)
  /-- Commits a state that the backend asks for. -/
  | requestState (output : Handle)
  /-- Forgets an output. -/
  | outputDestroyed (output : Handle)
  /-- Forwards the modifiers of a keyboard. -/
  | modifiers (device : Handle)
  /-- Handles a key of a keyboard. -/
  | key (device : Handle)
  /-- Forgets a keyboard. -/
  | keyboardDestroyed (device : Handle)
  /-- Only takes note that it was run; subscribed from outside. -/
  | observe (label : String)
deriving DecidableEq

/-- One entry of the journal. -/
inductive Record where
  /-- A command was given. -/
  | command (command : Command)
  /-- The listening socket was asked for. -/
  | openSocket
  /-- The start of the backend was asked for. -/
  | startBackend
  /-- The first state of an output was committed. -/
  | commitOutput (output : Handle) (configuration : OutputConfiguration)
  /-- A state that the backend asked for was committed. -/
  | commitRequestedState (output state : Handle)
  /-- A toplevel got a scene node. -/
  | toplevelScene (toplevel node : Handle)
  /-- A popup got a scene node. -/
  | popupScene (popup parent node : Handle)
  /-- A native listener was connected. -/
  | connected (handle : Handle) (signal : Signal) (token : Token)
  /-- A native listener was disconnected. -/
  | disconnected (token : Token)
  /-- An observer was run. -/
  | observed (label : String) (event : Event)

/-- The state of the compositor. -/
structure Server (T : Type) where
  /-- The toolkit. -/
  toolkit : T
  /-- The listeners on toolkit objects. -/
  registry : Registry Handler
  /-- The configuration. -/
  config : Config
  /-- The key bindings. -/
  bindings : KeyBindings
  /-- The windows. -/
  windows : WindowTable
  /-- The grab. -/
  interaction : Interaction
  /-- The attached keyboards, in the order of their announcement. -/
  keyboards : List Handle
  /-- The outputs, in the order of their announcement. -/
  outputs : List Handle
  /-- The name of the listening socket, once the display is ready. -/
  socket : Option String
  /-- Whether events are being processed. -/
  running : Bool
  /-- The number of the next window. It is not bounded: a counter of 64 bits is not used up within
  the life of a process. -/
  nextWindow : Nat
  /-- The value of `WAYLAND_DISPLAY` in the environment of the process. -/
  display : Option String
  /-- What was asked of the toolkit, newest first. -/
  journal : List Record

/-- The end of an operation. -/
structure Outcome (T α : Type) where
  /-- The result, or the fault that ended the operation early. -/
  result : Except Fault α
  /-- The state that is left. -/
  server : Server T

/-- Gives the result of an operation another form. -/
def Outcome.map {T α β : Type} (outcome : Outcome T α) (f : α → β) : Outcome T β :=
  ⟨outcome.result.map f, outcome.server⟩

namespace Server

variable {T : Type}

/-- The end of an operation without a fault. -/
def finish {α : Type} (server : Server T) (result : α) : Outcome T α :=
  ⟨.ok result, server⟩

/-- The end of an operation by a fault. -/
def fail {α : Type} (server : Server T) (fault : Fault) : Outcome T α :=
  ⟨.error fault, server⟩

/-- Puts an entry into the journal. -/
def note (server : Server T) (record : Record) : Server T :=
  { server with journal := record :: server.journal }

/-- What was put into the journal since an earlier state, oldest first. -/
def recordsSince (server earlier : Server T) : List Record :=
  (server.journal.take (server.journal.length - earlier.journal.length)).reverse

variable [Toolkit T]

/-- Gives the toolkit a command. -/
def perform (server : Server T) (command : Command) : Server T :=
  { server with toolkit := Toolkit.perform command server.toolkit }.note (.command command)

/-! ## Listeners -/

/-- Connects a native listener. -/
def connect (server : Server T) (handle : Handle) (signal : Signal) : Token × Server T :=
  let answer := Toolkit.connect handle signal server.toolkit
  (answer.1, { server with toolkit := answer.2 }.note (.connected handle signal answer.1))

/-- Disconnects a native listener. -/
def disconnect (server : Server T) (token : Token) : Server T :=
  { server with toolkit := Toolkit.disconnect token server.toolkit }.note (.disconnected token)

/-- Subscribes to a signal of a handle. The native listener of the pair is connected with its first
subscriber. -/
def register (server : Server T) (handle : Handle) (signal : Signal)
    (callback : Callback Handler) : Except Refusal SubscriptionId × Server T :=
  match server.registry.check handle with
  | .error refusal => (.error refusal, server)
  | .ok () =>
    match server.registry.append? handle signal callback with
    | some registry => (.ok server.registry.nextId, { server with registry })
    | none =>
      let connected := server.connect handle signal
      (.ok server.registry.nextId,
        { connected.2 with
          registry := server.registry.install handle signal connected.1 callback })

/-- A subscription that is to be made. -/
structure Wiring where
  /-- The handle. -/
  handle : Handle
  /-- The signal. -/
  signal : Signal
  /-- What its subscriber has done. -/
  callback : Callback Handler

/-- The wiring of a handler. -/
def Wiring.run (handle : Handle) (signal : Signal) (handler : Handler) : Wiring :=
  ⟨handle, signal, .run handler⟩

/-- The wiring that releases all listeners of a handle when it is destroyed. -/
def Wiring.track (handle : Handle) : Wiring :=
  ⟨handle, .destroy, .retire handle⟩

/-- Makes subscriptions in turn. A refused one is left out: its object is already gone. -/
def listenAll (server : Server T) : List Wiring → Server T
  | [] => server
  | wiring :: rest =>
    (server.register wiring.handle wiring.signal wiring.callback).2.listenAll rest

/-- Disconnects native listeners in turn. -/
def disconnectAll (server : Server T) (listeners : List (Listener Handler)) : Server T :=
  listeners.foldl (fun server listener => server.disconnect listener.token) server

/-- Releases all listeners of a handle; their number. -/
def unregisterAll (server : Server T) (handle : Handle) : Nat × Server T :=
  let taken := server.registry.take handle
  (taken.1.length, { server with registry := taken.2 }.disconnectAll taken.1)

/-- Retires a handle and releases all its listeners. -/
def retire (server : Server T) (handle : Handle) : Server T :=
  let taken := server.registry.retire handle
  { server with registry := taken.2 }.disconnectAll taken.1

/-- Takes back the mark of a destroyed handle. -/
def revive (server : Server T) (handle : Handle) : Server T :=
  { server with registry := server.registry.revive handle }

/-- Removes a subscriber, and its native listener with the last one; whether it was known. -/
def unsubscribe (server : Server T) (id : SubscriptionId) : Bool × Server T :=
  match server.registry.unsubscribe? id with
  | none => (false, server)
  | some (none, registry) => (true, { server with registry })
  | some (some token, registry) => (true, { server with registry }.disconnect token)

end Server

end Compositor
