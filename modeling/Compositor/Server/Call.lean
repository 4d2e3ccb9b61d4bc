import Compositor.Server.Lifecycle

set_option autoImplicit false

/-!
# Calls

Everything that can be done with a server from outside, as one type.

## Main definitions

* `Server.Call` — the calls.
* `Server.Answer` — their results.
* `Server.call` — carries a call out.
-/

namespace Compositor.Server

/-- A call of the server from outside. -/
inductive Call where
  /-- Dispatches a signal of a handle. -/
  | emit (handle : Handle) (signal : Signal) (event : Event)
  /-- Dispatches the signal of a native listener. -/
  | emitNative (token : Token) (event : Event)
  /-- Opens the display on a machine. -/
  | start (host : Host)
  /-- Processes events. -/
  | run (emissions : List Emission)
  /-- Stops processing events. -/
  | terminate
  /-- Takes everything down. -/
  | shutdown
  /-- Focuses the window behind the focused one. -/
  | cycleFocus
  /-- Focuses a window through a surface. -/
  | focusWindow (id : WindowId) (surface : Handle)
  /-- Begins a grab. -/
  | beginInteractive (id : WindowId) (mode : GrabMode) (edges : Edges)
  /-- Applies the cursor's place. -/
  | processMotion (time : UInt32)
  /-- Subscribes an observer. -/
  | observe (handle : Handle) (signal : Signal) (label : String)
  /-- Tracks the lifetime of a handle by one of its signals. -/
  | track (handle : Handle) (signal : Signal)
  /-- Releases all listeners of a handle. -/
  | unregisterAll (handle : Handle)
  /-- Removes a subscriber. -/
  | unsubscribe (id : SubscriptionId)
  /-- Takes back the mark of a destroyed handle. -/
  | revive (handle : Handle)

/-- The result of a call. -/
inductive Answer where
  /-- Nothing. -/
  | none
  /-- A number of callbacks or listeners. -/
  | count (n : Nat)
  /-- A truth value. -/
  | truth (b : Bool)
  /-- The display was opened, or could not be. -/
  | started (socket : Except Failure String)
  /-- A number of events was processed, and some are left. -/
  | ran (processed : Nat) (left : List Emission)
  /-- A subscription was made, or refused. -/
  | subscribed (id : Except Refusal SubscriptionId)

variable {T : Type} [Toolkit T]

/-- Carries a call out. -/
def call (server : Server T) : Call → Outcome T Answer
  | .emit handle signal event => (server.dispatch handle signal event).map .count
  | .emitNative token event => (server.dispatchNative token event).map .count
  | .start host => (server.start host).map .started
  | .run emissions => (server.run emissions).map fun done => .ran done.1 done.2
  | .terminate => server.terminate.finish .none
  | .shutdown => server.shutdown.finish .none
  | .cycleFocus => server.cycleFocus.finish .none
  | .focusWindow id surface => (server.focusWindow id surface).finish .none
  | .beginInteractive id mode edges => (server.beginInteractive id mode edges).map .truth
  | .processMotion time => (server.processMotion time).map fun () => .none
  | .observe handle signal label =>
    let subscribed := server.register handle signal (.run (.observe label))
    subscribed.2.finish (.subscribed subscribed.1)
  | .track handle signal =>
    let subscribed := server.register handle signal (.retire handle)
    subscribed.2.finish (.subscribed subscribed.1)
  | .unregisterAll handle =>
    let released := server.unregisterAll handle
    released.2.finish (.count released.1)
  | .unsubscribe id =>
    let removed := server.unsubscribe id
    removed.2.finish (.truth removed.1)
  | .revive handle =>
    (server.revive handle).finish (.truth (server.registry.isRetired handle))

end Compositor.Server
