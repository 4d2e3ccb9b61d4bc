import Compositor.Server.Focus

set_option autoImplicit false

/-!
# Keyboards

A press of a bound key while the accelerator is held runs the action of its binding. Every other key
event goes to the focused client, through the keyboard it came from.

## Main definitions

* `Server.attachKeyboard`, `Server.detachKeyboard`, `Server.attachPointer` — input devices.
* `Server.updateCapabilities` — tells clients what the seat can do.
* `Server.boundAction?` — the action of a key event.
* `Server.handleKey`, `Server.handleModifiers` — key events and changes of modifiers.
-/

namespace Compositor.Server

variable {T : Type} [Toolkit T]

/-- The capabilities of the seat. There is always a cursor, and so a pointer. -/
def capabilities (server : Server T) : Capabilities :=
  if server.keyboards.isEmpty then Capabilities.pointer
  else Capabilities.pointer.union Capabilities.keyboard

/-- Tells clients what the seat can do. -/
def updateCapabilities (server : Server T) : Server T :=
  server.perform (.setSeatCapabilities server.capabilities)

/-- What is listened to on a keyboard. -/
def keyboardWiring (device : Handle) : List Wiring :=
  [.run device .modifiers (.modifiers device), .run device .key (.key device),
    .run device .destroy (.keyboardDestroyed device), .track device]

/-- Attaches a keyboard and makes it the active one. -/
def attachKeyboard (server : Server T) (device : Handle) : Server T :=
  let keyboard := server.config.keyboard
  let configured :=
    server.perform (.configureKeyboard device keyboard.repeatRate keyboard.repeatDelay)
  let active :=
    (configured.listenAll (keyboardWiring device)).perform (.setSeatKeyboard device)
  { active with keyboards := active.keyboards ++ [device] }

/-- Forgets a keyboard. -/
def detachKeyboard (server : Server T) (device : Handle) : Server T :=
  { server with
    keyboards := server.keyboards.filter fun other => other ≠ device }.updateCapabilities

/-- Attaches an input device. Keyboards and pointers are of use, the other kinds are not. -/
def handleNewInput (server : Server T) (device : Handle) (kind : DeviceKind) : Server T :=
  let revived := server.revive device
  let attached :=
    match kind with
    | .keyboard => revived.attachKeyboard device
    | .pointer => revived.perform (.attachPointer device)
    | .touch | .tabletTool | .tabletPad | .switch => revived
  attached.updateCapabilities

/-- Forwards the modifiers of a keyboard, which becomes the active one. -/
def handleModifiers (server : Server T) (device : Handle) : Server T :=
  (server.perform (.setSeatKeyboard device)).perform (.keyboardModifiers device)

/-- Stops processing events. -/
def terminate (server : Server T) : Server T :=
  { server with running := false }.perform .terminate

/-- Runs the action of a binding. -/
def runAction (server : Server T) : Action → Server T
  | .terminate => server.terminate
  | .cycleFocus => server.cycleFocus

/-- The action of a key event: that of the first bound keysym of a pressed key. -/
def boundAction? (server : Server T) (device : Handle) (keycode : UInt32) (state : Press) :
    Option Action :=
  match state with
  | .released => none
  | .pressed =>
    let held := Toolkit.keyboardModifiers server.toolkit device
    (Toolkit.keysyms server.toolkit device keycode).findSome? (server.bindings.lookup? held)

/-- Runs the action of a key event, or forwards the event to the focused client. -/
def handleKey (server : Server T) (device : Handle) (time keycode : UInt32) (state : Press) :
    Server T :=
  match server.boundAction? device keycode state with
  | some action => server.runAction action
  | none =>
    (server.perform (.setSeatKeyboard device)).perform (.keyboardKey time keycode state)

end Compositor.Server
