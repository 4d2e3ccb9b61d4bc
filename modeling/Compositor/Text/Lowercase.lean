import Compositor.Text.Lowercase.Tables

set_option autoImplicit false

/-!
# Lowercase text

Lowercasing follows the full case mapping of characters: a dotted capital I becomes two characters,
and a capital sigma is written in its final form at the end of a word.

## Main definitions

* `Lowercase.character` — the lowercase form of a character other than a capital sigma.
* `Lowercase.endsWord` — whether a sigma between two texts stands at the end of a word.
* `Lowercase.text` — the lowercase form of a text.
-/

namespace Compositor.Lowercase

/-- Whether a code point lies in one of the ranges. -/
def inRanges (ranges : List (Nat × Nat)) (c : Char) : Bool :=
  ranges.any fun range => decide (range.1 ≤ c.toNat ∧ c.toNat ≤ range.2)

/-- Whether a run has a code point. -/
def Run.has (run : Run) (n : Nat) : Bool :=
  decide (run.first ≤ n ∧ n ≤ run.last) && (n - run.first) % run.step == 0

/-- The lowercase form of a character, apart from its surroundings. -/
def character (c : Char) : List Char :=
  if c = '\u0130' then ['i', '\u0307']
  else
    match runs.find? fun run => run.has c.toNat with
    | some run => [Char.ofNat (c.toNat + run.offset).toNat]
    | none => [c]

/-- Whether the first character that is not case-ignorable is a cased one. -/
def startsCased (characters : List Char) : Bool :=
  match (characters.dropWhile (inRanges caseIgnorable)).head? with
  | some c => inRanges cased c
  | none => false

/-- Whether a sigma ends a word: a cased character goes before it and none comes after it. The text
before it is given backwards. -/
def endsWord (before after : List Char) : Bool :=
  startsCased before && !startsCased after

/-- Lowercases characters; those that went before are given backwards. -/
def characters (before : List Char) : List Char → List Char
  | [] => []
  | c :: after =>
    (if c = 'Σ' then [if endsWord before after then 'ς' else 'σ'] else character c) ++
      characters (c :: before) after

/-- The lowercase form of a text. -/
def text (s : String) : String :=
  String.ofList (characters [] s.toList)

end Compositor.Lowercase
