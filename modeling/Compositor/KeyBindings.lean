import Compositor.Flags
import Compositor.Keysym

set_option autoImplicit false

/-!
# Key bindings

A table from keysyms to actions, in force while an accelerator modifier is held.

## Main definitions

* `Action` — what a binding does.
* `KeyBindings` — the accelerator and the bound keysyms, in the order of their first binding.
* `KeyBindings.bind` — binds a keysym, in place of an earlier binding of it.
* `KeyBindings.lookup?` — the action of a keysym under given modifiers.
-/

namespace Compositor

/-- What a key binding does. -/
inductive Action where
  /-- Ends the session. -/
  | terminate
  /-- Focuses the window behind the focused one. -/
  | cycleFocus
deriving DecidableEq

/-- The name of an action. -/
def Action.name : Action → String
  | terminate => "terminate"
  | cycleFocus => "cycle-focus"

/-- The constructor's name of an action. -/
def Action.constructorName : Action → String
  | terminate => "Terminate"
  | cycleFocus => "CycleFocus"

/-- A table from keysyms to actions. -/
structure KeyBindings where
  /-- The flags that must be held. -/
  modifier : Modifiers
  /-- The bound keysyms. -/
  entries : List (Keysym × Action)
deriving DecidableEq

namespace KeyBindings

/-- The table without any binding. -/
def empty (modifier : Modifiers) : KeyBindings :=
  ⟨modifier, []⟩

/-- Sets the action of a keysym: in place if the list has the keysym, else at its end. -/
def assign (keysym : Keysym) (action : Action) : List (Keysym × Action) → List (Keysym × Action)
  | [] => [(keysym, action)]
  | entry :: rest =>
    if entry.1 = keysym then (keysym, action) :: rest else entry :: assign keysym action rest

/-- Binds a keysym to an action. -/
def bind (bindings : KeyBindings) (keysym : Keysym) (action : Action) : KeyBindings :=
  { bindings with entries := assign keysym action bindings.entries }

/-- Whether the accelerator is among the held modifiers; others do not matter. -/
def acceleratorHeld (bindings : KeyBindings) (held : Modifiers) : Bool :=
  held.contains bindings.modifier

/-- The action of a keysym while some modifiers are held. -/
def lookup? (bindings : KeyBindings) (held : Modifiers) (keysym : Keysym) : Option Action :=
  if bindings.acceleratorHeld held then
    (bindings.entries.find? fun entry => entry.1 = keysym).map Prod.snd
  else none

/-- Alt and escape terminate, alt and the first function key cycle the focus. -/
def standard : KeyBindings :=
  ((empty Modifiers.alt).bind Keysym.escape .terminate).bind Keysym.f1 .cycleFocus

/-- The structural text of a table. -/
def describe (bindings : KeyBindings) : String :=
  Structural.record "KeyBindings"
    [("modifier", bindings.modifier.describe),
      ("bindings", Structural.list (bindings.entries.map fun entry =>
        Structural.pair entry.1.describe entry.2.constructorName))]

end KeyBindings

end Compositor
