import Compositor.Server.Keyboard
import Compositor.Server.Output
import Compositor.Server.Shell

set_option autoImplicit false

/-!
# Dispatch

A signal is dispatched by running, in turn, the callbacks that its subscribers had when the dispatch
began. A fault ends the dispatch at once.

## Main definitions

* `Handler.run` — what a handler does with an event.
* `Server.serve` — runs callbacks in turn.
* `Server.dispatch`, `Server.dispatchNative` — dispatches a signal, named directly or by its native
  listener; the result is the number of callbacks.
-/

namespace Compositor

/-- What a handler does with an event. One that needs a payload accepts no other. -/
def Handler.run {T : Type} [Toolkit T] (handler : Handler) (event : Event) (server : Server T) :
    Outcome T Unit :=
  match handler, event with
  | .newOutput, .newOutput output => (server.handleNewOutput output).finish ()
  | .newOutput, _ => server.fail (.unexpectedPayload .newOutput event)
  | .newInput, .newInput device kind => (server.handleNewInput device kind).finish ()
  | .newInput, _ => server.fail (.unexpectedPayload .newInput event)
  | .newToplevel, .newToplevel toplevel surface =>
    (server.handleNewToplevel toplevel surface).finish ()
  | .newToplevel, _ => server.fail (.unexpectedPayload .newToplevel event)
  | .newPopup, .newPopup popup parent => server.handleNewPopup popup parent
  | .newPopup, _ => server.fail (.unexpectedPayload .newPopup event)
  | .motion, .pointerMotion device time offset => server.handleMotion device time offset
  | .motion, _ => server.fail (.unexpectedPayload .motion event)
  | .motionAbsolute, .pointerMotionAbsolute device time place =>
    server.handleMotionAbsolute device time place
  | .motionAbsolute, _ => server.fail (.unexpectedPayload .motionAbsolute event)
  | .button, .pointerButton time code state => (server.handleButton time code state).finish ()
  | .button, _ => server.fail (.unexpectedPayload .button event)
  | .axis, .pointerAxis scroll => (server.perform (.pointerAxis scroll)).finish ()
  | .axis, _ => server.fail (.unexpectedPayload .axis event)
  | .pointerFrame, _ => (server.perform .pointerFrame).finish ()
  | .requestSetCursor, .requestSetCursor client surface hotspot =>
    (server.handleSetCursorRequest client surface hotspot).finish ()
  | .requestSetCursor, _ => server.fail (.unexpectedPayload .requestSetCursor event)
  | .map id, _ => (server.handleMap id).finish ()
  | .unmap id, _ => (server.handleUnmap id).finish ()
  | .commit id, .commit initial => (server.handleCommit id initial).finish ()
  | .commit _, _ => server.fail (.unexpectedPayload .commit event)
  | .toplevelDestroyed id, _ => (server.handleToplevelDestroyed id).finish ()
  | .requestMove id, _ =>
    (server.beginInteractive id .move FlagSet.none).map fun _ => ()
  | .requestResize id, .requestResize _ edges =>
    (server.beginInteractive id .resize edges).map fun _ => ()
  | .requestResize _, _ => server.fail (.unexpectedPayload .requestResize event)
  | .popupCommit popup, .commit true => (server.perform (.scheduleConfigure popup)).finish ()
  | .popupCommit _, _ => server.finish ()
  | .frame output, _ => (server.perform (.renderOutputFrame output)).finish ()
  | .requestState output, .outputRequestState state =>
    (server.handleRequestState output state).finish ()
  | .requestState _, _ => server.fail (.unexpectedPayload .requestState event)
  | .outputDestroyed output, _ => (server.handleOutputDestroyed output).finish ()
  | .modifiers device, _ => (server.handleModifiers device).finish ()
  | .key device, .key time keycode state => (server.handleKey device time keycode state).finish ()
  | .key _, _ => server.fail (.unexpectedPayload .key event)
  | .keyboardDestroyed device, _ => (server.detachKeyboard device).finish ()
  | .observe label, _ => (server.note (.observed label event)).finish ()

namespace Server

variable {T : Type} [Toolkit T]

/-- Runs one callback. -/
def runCallback (server : Server T) (event : Event) : Callback Handler → Outcome T Unit
  | .retire handle => (server.retire handle).finish ()
  | .run handler => handler.run event server

/-- Runs callbacks in turn, up to a fault. -/
def serve (server : Server T) (event : Event) : List (Callback Handler) → Outcome T Unit
  | [] => server.finish ()
  | callback :: rest =>
    let ran := server.runCallback event callback
    match ran.result with
    | .error fault => ran.server.fail fault
    | .ok () => ran.server.serve event rest

/-- Dispatches a signal of a handle. -/
def dispatch (server : Server T) (handle : Handle) (signal : Signal) (event : Event) :
    Outcome T Nat :=
  let callbacks := server.registry.callbacks handle signal
  (server.serve event callbacks).map fun () => callbacks.length

/-- Dispatches the signal for which a native listener is installed. -/
def dispatchNative (server : Server T) (token : Token) (event : Event) : Outcome T Nat :=
  match server.registry.target? token with
  | some (handle, signal) => server.dispatch handle signal event
  | none => server.finish 0

end Server

end Compositor
