import Compositor.Config.Invalid
import Compositor.Config.Schema
import Compositor.KeyBindings
import Compositor.Text.Lowercase

set_option autoImplicit false

/-!
# Resolving the key bindings

A configuration names a modifier and two keysyms. Resolving turns the names into a binding table.

## Main definitions

* `Modifiers.ofName?` — the modifier with a given lowercase name.
* `BindingsConfig.modifierFlag` — the accelerator, whose name may be in any case.
* `BindingsConfig.resolve` — the binding table.
-/

namespace Compositor

/-- The modifier with a given name. Two of them have a second name. -/
def Modifiers.ofName? (name : String) : Option Modifiers :=
  if name = "alt" then some alt
  else if name = "ctrl" ∨ name = "control" then some ctrl
  else if name = "shift" then some shift
  else if name = "logo" ∨ name = "super" then some logo
  else none

namespace BindingsConfig

/-- The accelerator modifier. -/
def modifierFlag (bindings : BindingsConfig) : Except Invalid Modifiers :=
  let name := Lowercase.text bindings.modifier
  match Modifiers.ofName? name with
  | some flag => .ok flag
  | none => .error (.modifier name)

/-- The keysym that a binding names. -/
def keysym (binding : BindingName) (name : String) : Except Invalid Keysym :=
  match Keysym.ofName? name with
  | some keysym => .ok keysym
  | none => .error (.keysym binding name)

/-- The binding table. The modifier is looked at first, then the two keysyms, which must differ. -/
def resolve (bindings : BindingsConfig) : Except Invalid KeyBindings :=
  match bindings.modifierFlag with
  | .error cause => .error cause
  | .ok modifier =>
    match keysym .terminate bindings.terminate with
    | .error cause => .error cause
    | .ok terminate =>
      match keysym .cycleFocus bindings.cycleFocus with
      | .error cause => .error cause
      | .ok cycleFocus =>
        if terminate = cycleFocus then .error (.clash bindings.terminate)
        else
          .ok (((KeyBindings.empty modifier).bind terminate .terminate).bind cycleFocus .cycleFocus)

end BindingsConfig

end Compositor
