import Compositor.Text.Reader

set_option autoImplicit false

/-!
# Texts and spaces of a TOML document

A text stands between single or double quotes, on one line between one of them or on several lines
between three. Only double quotes allow escapes.

## Main definitions

* `Toml.blanks`, `Toml.newline`, `Toml.lineEnd`, `Toml.gap` — spaces, line ends and comments.
* `Toml.lineText` — a text on one line.
* `Toml.text` — a text of any form.
-/

namespace Compositor.Toml

open Reader

/-! ## Spaces -/

/-- Whether a character is a space or a tab. -/
def isBlank (c : Char) : Bool :=
  c == ' ' || c == '\t'

/-- Whether a character may stand in texts and comments as it is. -/
def isPlain (c : Char) : Bool :=
  c == '\t' || (decide (' ' ≤ c) && c != '\x7f')

/-- Spaces and tabs. -/
def blanks : Reader Unit := do
  let _ ← span isBlank

/-- The end of a line. -/
def newline : Reader Unit :=
  symbol ['\n'] <|> symbol ['\r', '\n']

/-- A comment without the end of its line. -/
def comment : Reader Unit := do
  symbol ['#']
  let _ ← span isPlain

/-- The rest of a line after its last value. -/
def lineEnd : Reader Unit := do
  blanks
  let _ ← optional comment
  newline <|> done

/-- Spaces, line ends and comments. -/
def gap : Reader Unit := do
  let _ ← many (do blanks; let _ ← optional comment; newline)
  blanks
  let _ ← optional (do comment; done)

/-! ## Escapes -/

/-- The value of a hexadecimal digit. -/
def hexValue? (c : Char) : Option Nat :=
  if c.isDigit then some (c.toNat - '0'.toNat)
  else if 'a' ≤ c ∧ c ≤ 'f' then some (c.toNat - 'a'.toNat + 10)
  else if 'A' ≤ c ∧ c ≤ 'F' then some (c.toNat - 'A'.toNat + 10)
  else none

/-- A number of so many hexadecimal digits, after those whose number is given. -/
def hexNumber : Nat → Nat → Reader Nat
  | 0, n => pure n
  | width + 1, n => do
    match hexValue? (← next) with
    | some digit => hexNumber width (16 * n + digit)
    | none => failure

/-- A character given by its number. -/
def codePoint (width : Nat) : Reader Char := do
  let n ← hexNumber width 0
  require (decide n.isValidChar)
  return Char.ofNat n

/-- An escape. -/
def escape : Reader Char := do
  symbol ['\\']
  match ← next with
  | 'b' => return '\x08'
  | 't' => return '\t'
  | 'n' => return '\n'
  | 'f' => return '\x0c'
  | 'r' => return '\r'
  | '"' => return '"'
  | '\\' => return '\\'
  | 'u' => codePoint 4
  | 'U' => codePoint 8
  | _ => failure

/-! ## Texts -/

/-- A character that stands for itself between double quotes. -/
def escapable : Reader Char :=
  escape <|> only fun c => isPlain c && c != '"' && c != '\\'

/-- A character that stands for itself between single quotes. -/
def verbatim : Reader Char :=
  only fun c => isPlain c && c != '\x27'

/-- A text on one line. -/
def lineText : Reader String :=
  quotedBy '"' escapable <|> quotedBy '\x27' verbatim
where
  quotedBy (quote : Char) (item : Reader Char) : Reader String := do
    symbol [quote]
    let content ← many item
    symbol [quote]
    return String.ofList content

/-- A line end between double quotes that a backslash takes away with all space after it. -/
def foldedLine : Reader (List Char) := do
  symbol ['\\']
  blanks
  newline
  let _ ← many (newline <|> do let _ ← only isBlank)
  return []

/-- One or two quotes inside a text between three. -/
def innerQuotes (quote : Char) : Reader (List Char) := do
  let quotes ← span (· == quote)
  require (quotes.length == 1 || quotes.length == 2)
  return quotes

/-- A text on several lines. A line end right after the opening quotes does not count, and up to two
quotes before the closing ones belong to the text. -/
def blockText : Reader String :=
  quotedBy '"' (foldedLine <|> List.singleton <$> escapable) <|>
    quotedBy '\x27' (List.singleton <$> verbatim)
where
  quotedBy (quote : Char) (piece : Reader (List Char)) : Reader String := do
    symbol [quote, quote, quote]
    let _ ← optional newline
    let line := do newline; return ['\n']
    let content ← many (piece <|> line <|> innerQuotes quote)
    let closing ← span (· == quote)
    require (decide (3 ≤ closing.length) && decide (closing.length ≤ 5))
    return String.ofList (content.flatten ++ closing.drop 3)

/-- A text. -/
def text : Reader String :=
  blockText <|> lineText

end Compositor.Toml
