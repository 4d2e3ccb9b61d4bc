set_option autoImplicit false

/-!
# Readers

A reader takes what it needs from the front of a text and leaves the rest, or refuses the text.
Alternatives are tried from the same place.

## Main definitions

* `Reader` — the type of readers.
* `Reader.next`, `Reader.only`, `Reader.symbol`, `Reader.span` — readers of characters.
* `Reader.require`, `Reader.notBefore`, `Reader.done` — conditions.
* `Reader.many`, `Reader.listed` — repetition.
* `Reader.run` — reads a whole text.
-/

namespace Compositor

/-- What takes a value from the front of a text. -/
abbrev Reader (α : Type) := StateT (List Char) Option α

namespace Reader

variable {α : Type}

/-- The next character. -/
def next : Reader Char
  | [] => none
  | c :: rest => some (c, rest)

/-- Goes on only if a condition holds, and takes nothing. -/
def require (condition : Bool) : Reader Unit := fun text =>
  if condition then some ((), text) else none

/-- The next character, which must satisfy a condition. -/
def only (condition : Char → Bool) : Reader Char := do
  let c ← next
  require (condition c)
  return c

/-- The given characters. -/
def symbol (characters : List Char) : Reader Unit := fun text =>
  if characters.isPrefixOf text then some ((), text.drop characters.length) else none

/-- All characters up to the first that does not satisfy a condition. -/
def span (condition : Char → Bool) : Reader (List Char) := fun text =>
  some (text.takeWhile condition, text.dropWhile condition)

/-- The end of the text. -/
def done : Reader Unit := fun text =>
  if text.isEmpty then some ((), text) else none

/-- Requires that the next character, if there is one, does not satisfy a condition. -/
def notBefore (condition : Char → Bool) : Reader Unit := fun text =>
  if text.head?.any condition then none else some ((), text)

/-- Reads at most so many values. -/
def atMost (item : Reader α) : Nat → Reader (List α)
  | 0 => pure []
  | n + 1 => (do return (← item) :: (← atMost item n)) <|> pure []

/-- Reads values as long as there are any. Each of them must take a character. -/
def many (item : Reader α) : Reader (List α) := do
  atMost item (← get).length

/-- Reads values with commas between them. -/
def listed (item : Reader α) : Reader (List α) :=
  (do return (← item) :: (← many (do symbol [',']; item))) <|> pure []

/-- Reads a whole text. -/
def run (reader : Reader α) (text : List Char) : Option α :=
  match reader text with
  | some (value, []) => some value
  | _ => none

end Reader

end Compositor
