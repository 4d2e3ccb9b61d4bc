set_option autoImplicit false

/-!
# Invalid settings

What can be wrong with a configuration whose values have the right types.

## Main definitions

* `BindingName` — the two bindings that a configuration names.
* `Invalid` — the causes, with their diagnostics `Invalid.message`.
-/

namespace Compositor

/-- The bindings that a configuration names. -/
inductive BindingName where
  /-- The binding that ends the session. -/
  | terminate
  /-- The binding that cycles the focus. -/
  | cycleFocus
deriving DecidableEq

/-- The name of a binding's field. -/
def BindingName.field : BindingName → String
  | terminate => "terminate"
  | cycleFocus => "cycle_focus"

/-- Why a setting is refused. -/
inductive Invalid where
  /-- There is no such log level. -/
  | level (name : String)
  /-- There is no such log format. -/
  | format (name : String)
  /-- The repeat rate is not positive. -/
  | repeatRate (rate : Int32)
  /-- The repeat delay is negative. -/
  | repeatDelay (delay : Int32)
  /-- There is no such modifier; the name is given in lowercase. -/
  | modifier (name : String)
  /-- There is no such keysym. -/
  | keysym (binding : BindingName) (name : String)
  /-- Both bindings use the same keysym, which `terminate` calls `name`. -/
  | clash (name : String)
  /-- The cursor size is zero. -/
  | cursorSize
  /-- The default cursor image is blank. -/
  | cursorImage
deriving DecidableEq

/-- The diagnostic of an invalid setting. -/
def Invalid.message : Invalid → String
  | level name =>
    "Invalid log level: '" ++ name ++ "'. Must be one of trace, debug, info, warn, error."
  | format name => "Invalid log format: '" ++ name ++ "'. Must be one of text, json."
  | repeatRate rate =>
    "Invalid keyboard repeat_rate: " ++ toString rate ++ ". Must be positive."
  | repeatDelay delay =>
    "Invalid keyboard repeat_delay: " ++ toString delay ++ ". Must not be negative."
  | modifier name =>
    "Invalid binding modifier: '" ++ name ++ "'. Must be one of alt, ctrl, shift, logo."
  | keysym binding name =>
    "Unknown keysym '" ++ name ++ "' for binding '" ++ binding.field ++ "'"
  | clash name => "Bindings 'terminate' and 'cycle_focus' both use '" ++ name ++ "'"
  | cursorSize => "Invalid cursor size: 0. Must be positive."
  | cursorImage => "Cursor default_image must not be empty."

end Compositor
