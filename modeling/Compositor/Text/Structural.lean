set_option autoImplicit false

/-!
# Structural text

The text in which values are shown in diagnostics: a constructor applied to its arguments is
written `Name(a, b)`, a record `Name { field: a }`, and a missing value `None`. Natural numbers are
written in base sixteen, as handles, unknown flag bits and the bit patterns of doubles are shown.

## Main definitions

* `Numeral.hex` — lowercase hexadecimal digits with the leading `0x`.
* `Numeral.paddedHex` — the same with leading zeros up to a given number of digits.
* `Numeral.hexDigits` — a fixed number of digits and no leading `0x`.
* `Structural.application`, `Structural.record` — constructors and records.
* `Structural.list`, `Structural.pair`, `Structural.option` — containers.
* `Structural.truth` — truth values.
-/

namespace Compositor.Numeral

/-- The lowercase hexadecimal digits of `n`, filled up with zeros to at least `width` digits. -/
def hexDigits (width n : Nat) : String :=
  let digits := Nat.toDigits 16 n
  String.ofList (List.replicate (width - digits.length) '0' ++ digits)

/-- The hexadecimal numeral of `n` with its leading `0x`. -/
def hex (n : Nat) : String :=
  "0x" ++ hexDigits 1 n

/-- The hexadecimal numeral of `n` with at least `width` digits after the leading `0x`. -/
def paddedHex (width n : Nat) : String :=
  "0x" ++ hexDigits width n

end Compositor.Numeral

namespace Compositor.Structural

/-- A constructor with positional arguments. -/
def application (name : String) (arguments : List String) : String :=
  name ++ "(" ++ ", ".intercalate arguments ++ ")"

/-- A record with named fields, in the order given. -/
def record (name : String) (fields : List (String × String)) : String :=
  let shown := fields.map fun field => field.1 ++ ": " ++ field.2
  name ++ " \x7b " ++ ", ".intercalate shown ++ " \x7d"

/-- A list in square brackets. -/
def list (items : List String) : String :=
  "[" ++ ", ".intercalate items ++ "]"

/-- A pair in round brackets. -/
def pair (first second : String) : String :=
  "(" ++ first ++ ", " ++ second ++ ")"

/-- An optional value, its content shown by `describe`. -/
def option {α : Type} (describe : α → String) : Option α → String
  | none => "None"
  | some a => application "Some" [describe a]

/-- A truth value. -/
def truth : Bool → String
  | true => "true"
  | false => "false"

end Compositor.Structural
