set_option autoImplicit false

/-!
# Escapes

A backslash and what follows it can stand for one character in a text that is written.

## Main definitions

* `Script.escape` — an escape at the front of a text.
* `Script.Unescaped`, `Script.unescape` — a text with its escapes replaced.
-/

namespace Compositor.Script

/-- Whether a character is an octal digit. -/
def isOctal (c : Char) : Bool :=
  '0' ≤ c && c ≤ '7'

/-- The character with an octal number. -/
def ofOctal (digits : List Char) : Char :=
  Char.ofNat (digits.foldl (fun n c => 8 * n + (c.toNat - '0'.toNat)) 0 % 256)

/-- The character that an escape without its backslash stands for, and what follows it. -/
def escape : List Char → Char × List Char
  | 'n' :: rest => ('\n', rest)
  | 't' :: rest => ('\t', rest)
  | 'r' :: rest => ('\r', rest)
  | 'a' :: rest => ('\x07', rest)
  | 'b' :: rest => ('\x08', rest)
  | 'f' :: rest => ('\x0c', rest)
  | 'v' :: rest => ('\x0b', rest)
  | 'e' :: rest => ('\x1b', rest)
  | '\\' :: rest => ('\\', rest)
  | rest =>
    let digits := (rest.take 3).takeWhile isOctal
    if digits.isEmpty then ('\\', rest) else (ofOctal digits, rest.drop digits.length)

/-- A text without its escapes. -/
structure Unescaped where
  /-- The text. -/
  text : List Char
  /-- Whether an escape ends all output. -/
  ends : Bool

/-- Puts a character before a text. -/
def Unescaped.push (c : Char) (rest : Unescaped) : Unescaped :=
  { rest with text := c :: rest.text }

/-- Replaces escapes as far as the fuel goes. -/
def unescapeUpTo : Nat → List Char → Unescaped
  | 0, text => ⟨text, false⟩
  | _, [] => ⟨[], false⟩
  | _ + 1, '\\' :: 'c' :: _ => ⟨[], true⟩
  | fuel + 1, '\\' :: '0' :: rest =>
    let digits := (rest.take 3).takeWhile isOctal
    (unescapeUpTo fuel (rest.drop digits.length)).push (ofOctal digits)
  | fuel + 1, '\\' :: rest =>
    let (c, rest) := escape rest
    (unescapeUpTo fuel rest).push c
  | fuel + 1, c :: rest => (unescapeUpTo fuel rest).push c

/-- A text with its escapes replaced. An octal number begins with a zero and has up to three digits
after it. -/
def unescape (text : String) : Unescaped :=
  unescapeUpTo text.length text.toList

end Compositor.Script
