import Compositor.Text.Structural

set_option autoImplicit false

/-!
# Keysyms

The meaning of a key as a code, and the names by which a configuration file speaks of it. Three
kinds of keysym have a name: those of a short table, the function keys `F1` to `F12`, and the ASCII
letters and digits, whose name is the character itself.

## Main definitions

* `Keysym.function?` — the function key with a given number.
* `Keysym.ofName?`, `Keysym.name?` — from names to keysyms and back.
* `Numeral.readWord?` — reading a 32-bit number with an optional plus sign.
-/

namespace Compositor

namespace Numeral

/-- The value of a nonempty list of decimal digits. -/
def readDigits? (digits : List Char) : Option Nat :=
  if !digits.isEmpty && digits.all Char.isDigit then
    some (digits.foldl (fun n c => 10 * n + (c.toNat - '0'.toNat)) 0)
  else none

/-- A number below `2 ^ 32` in decimal digits, after a plus sign or nothing. -/
def readWord? (text : List Char) : Option UInt32 :=
  let digits := match text with
    | '+' :: rest => rest
    | other => other
  match readDigits? digits with
  | some n => if n < UInt32.size then some n.toUInt32 else none
  | none => none

end Numeral

/-- The meaning of a key. -/
structure Keysym where
  /-- The standard code. -/
  code : UInt32
deriving DecidableEq, Inhabited

namespace Keysym

/-- The escape key. -/
def escape : Keysym := ⟨0xff1b⟩

/-- The first function key. -/
def f1 : Keysym := ⟨0xffbe⟩

/-- The twelfth function key. -/
def f12 : Keysym := ⟨0xffc9⟩

/-- The keysyms that are named by a word. -/
def named : List (String × Keysym) :=
  [("BackSpace", ⟨0xff08⟩), ("Tab", ⟨0xff09⟩), ("Return", ⟨0xff0d⟩), ("Escape", escape),
    ("Home", ⟨0xff50⟩), ("Left", ⟨0xff51⟩), ("Up", ⟨0xff52⟩), ("Right", ⟨0xff53⟩),
    ("Down", ⟨0xff54⟩), ("End", ⟨0xff57⟩), ("Delete", ⟨0xffff⟩), ("space", ⟨0x0020⟩)]

/-- The function key with number `n`, for the numbers one to twelve. -/
def function? (n : UInt32) : Option Keysym :=
  if 1 ≤ n ∧ n ≤ 12 then some ⟨f1.code + n - 1⟩ else none

/-- The keysym of a single ASCII letter or digit. -/
def ofCharacters? : List Char → Option Keysym
  | [c] => if c.isAlphanum then some ⟨c.val⟩ else none
  | _ => none

/-- The keysym with a given name. A text that reads as `F` and a number is a function key or
nothing. -/
def ofName? (name : String) : Option Keysym :=
  match named.find? fun entry => entry.1 == name with
  | some entry => some entry.2
  | none =>
    match name.toList with
    | 'F' :: rest =>
      match Numeral.readWord? rest with
      | some n => function? n
      | none => ofCharacters? name.toList
    | characters => ofCharacters? characters

/-- The name of a keysym, if it has one. -/
def name? (keysym : Keysym) : Option String :=
  match named.find? fun entry => entry.2 == keysym with
  | some entry => some entry.1
  | none =>
    if f1.code ≤ keysym.code ∧ keysym.code ≤ f12.code then
      some ("F" ++ toString (keysym.code - f1.code + 1).toNat)
    else
      let character := Char.ofNat keysym.code.toNat
      if keysym.code < 128 ∧ character.isAlphanum then some (String.singleton character) else none

/-- The keysym in diagnostics: its name, or its code with at least four digits. -/
def describe (keysym : Keysym) : String :=
  Structural.application "Keysym"
    [keysym.name?.getD (Numeral.paddedHex 4 keysym.code.toNat)]

/-- What is said of a name that no keysym has. -/
def unknownNameMessage (name : String) : String :=
  "unknown keysym name '" ++ name ++ "'"

end Keysym

end Compositor
