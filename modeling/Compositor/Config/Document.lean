import Compositor.Config.Schema
import Compositor.Text.Characters
import Compositor.Toml.Document

set_option autoImplicit false

/-!
# Configuration documents

A document may give any part of the configuration; the rest has its standard value. A section is
given as a table of its fields, or as an array of them in the order of the schema, of which surplus
elements are ignored. No value is taken for one of another type, and no unknown field is accepted.

## Main definitions

* `Toml.Value.fields?` — the fields of a section.
* `LoggingConfig.ofValue?` and the like — the sections.
* `Config.ofDocument?` — the configuration that a document gives.
-/

namespace Compositor

open Toml

/-! ## Fields -/

namespace Toml.Value

/-- The fields of a section with given field names. -/
def fields? (names : List String) : Value → Option (String → Option Value)
  | .table _ entries =>
    if entries.all fun entry => names.contains entry.1 then some (Table.get? entries) else none
  | .array elements => some fun name => (names.zip elements).lookup name
  | .tables rows => some fun name => (names.zip (rows.map (Value.table .header))).lookup name
  | _ => none

/-- The text that a value is. -/
def text? : Value → Option String
  | .text content => some content
  | _ => none

/-- The signed number that a value is. -/
def int32? : Value → Option Int32
  | .integer n =>
    if Int32.minValue.toInt ≤ n ∧ n ≤ Int32.maxValue.toInt then some (Int32.ofInt n) else none
  | _ => none

/-- The unsigned number that a value is. -/
def uint32? : Value → Option UInt32
  | .integer n => if 0 ≤ n ∧ n < UInt32.size then some (UInt32.ofNat n.toNat) else none
  | _ => none

/-- A field that has a standard value. -/
def orStandard {α : Type} (read? : Value → Option α) (standard : α) : Option Value → Option α
  | none => some standard
  | some value => read? value

/-- A field that may be missing. -/
def ifGiven {α : Type} (read? : Value → Option α) : Option Value → Option (Option α)
  | none => some none
  | some value => (read? value).map some

end Toml.Value

open Toml.Value

/-! ## Sections -/

/-- The settings of the log. -/
def LoggingConfig.ofValue? (value : Value) : Option LoggingConfig := do
  let field ← value.fields? ["level", "file_path", "format"]
  let level ← orStandard text? standard.level (field "level")
  let filePath ← ifGiven text? (field "file_path")
  let format ← orStandard text? standard.format (field "format")
  return ⟨level, filePath, format⟩

/-- The settings of keyboards. -/
def KeyboardConfig.ofValue? (value : Value) : Option KeyboardConfig := do
  let field ← value.fields? ["repeat_rate", "repeat_delay"]
  let repeatRate ← orStandard int32? standard.repeatRate (field "repeat_rate")
  let repeatDelay ← orStandard int32? standard.repeatDelay (field "repeat_delay")
  return ⟨repeatRate, repeatDelay⟩

/-- The names of the key bindings. -/
def BindingsConfig.ofValue? (value : Value) : Option BindingsConfig := do
  let field ← value.fields? ["modifier", "terminate", "cycle_focus"]
  let modifier ← orStandard text? standard.modifier (field "modifier")
  let terminate ← orStandard text? standard.terminate (field "terminate")
  let cycleFocus ← orStandard text? standard.cycleFocus (field "cycle_focus")
  return ⟨modifier, terminate, cycleFocus⟩

/-- The appearance of the cursor. -/
def CursorConfig.ofValue? (value : Value) : Option CursorConfig := do
  let field ← value.fields? ["theme", "size", "default_image"]
  let theme ← ifGiven text? (field "theme")
  let size ← orStandard uint32? standard.size (field "size")
  let defaultImage ← orStandard text? standard.defaultImage (field "default_image")
  return ⟨theme, size, defaultImage⟩

/-! ## The document -/

namespace Config

/-- The configuration that a table gives. -/
def ofTable? (entries : Table) : Option Config := do
  let field ← (Value.table .header entries).fields?
    ["logging", "keyboard", "bindings", "cursor", "startup_command"]
  let logging ← orStandard LoggingConfig.ofValue? standard.logging (field "logging")
  let keyboard ← orStandard KeyboardConfig.ofValue? standard.keyboard (field "keyboard")
  let bindings ← orStandard BindingsConfig.ofValue? standard.bindings (field "bindings")
  let cursor ← orStandard CursorConfig.ofValue? standard.cursor (field "cursor")
  let startupCommand ← ifGiven text? (field "startup_command")
  return ⟨logging, keyboard, bindings, cursor, startupCommand⟩

/-- The configuration that a document gives. A blank document gives the standard one. -/
def ofDocument? (document : String) : Option Config :=
  if Blank.isBlank document then some standard
  else
    match Table.ofText? document with
    | some entries => ofTable? entries
    | none => none

end Config

end Compositor
