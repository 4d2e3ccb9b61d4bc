import Compositor.Text.Quoted.Tables

set_option autoImplicit false

/-!
# Quoted text

Paths and values of variables are shown in diagnostics between double quotes, and what would not be
seen as it is there is written as an escape.

## Main definitions

* `Quoted.isUnseen` — whether a character has to be written by its number.
* `Quoted.character` — a character between the quotes.
* `Quoted.text` — a text in quotes.
-/

namespace Compositor.Quoted

/-- Whether a character leaves no mark of its own. -/
def isUnseen (c : Char) : Bool :=
  unseen.any fun range => decide (range.1 ≤ c.toNat ∧ c.toNat ≤ range.2)

/-- A character between double quotes. -/
def character (c : Char) : List Char :=
  if c = '\x00' then ['\\', '0']
  else if c = '\t' then ['\\', 't']
  else if c = '\n' then ['\\', 'n']
  else if c = '\r' then ['\\', 'r']
  else if c = '"' then ['\\', '"']
  else if c = '\\' then ['\\', '\\']
  else if isUnseen c then
    ['\\', 'u', '\x7b'] ++ Nat.toDigits 16 c.toNat ++ ['\x7d']
  else [c]

/-- A text in double quotes. -/
def text (s : String) : String :=
  String.ofList (['"'] ++ s.toList.flatMap character ++ ['"'])

end Compositor.Quoted
