set_option autoImplicit false

/-!
# Patterns

A pattern stands for the texts that fit it: a star for any text, a question mark for any character
and a list in brackets for one of its members. A quoted character stands for itself.

## Main definitions

* `Script.Item`, `Script.Pattern` — patterns.
* `Script.Pattern.ofMarked` — the pattern that characters, some of them quoted, write down.
* `Script.Pattern.fits` — whether a text fits a pattern.
-/

namespace Compositor.Script

/-- Whether a character lies in one of some ranges. -/
def amongRanges (ranges : List (Char × Char)) (c : Char) : Bool :=
  ranges.any fun range => decide (range.1 ≤ c ∧ c ≤ range.2)

/-- The members of a class of characters. -/
def classRanges (name : String) : List (Char × Char) :=
  match name with
  | "alpha" => [('A', 'Z'), ('a', 'z')]
  | "digit" => [('0', '9')]
  | "alnum" => [('0', '9'), ('A', 'Z'), ('a', 'z')]
  | "upper" => [('A', 'Z')]
  | "lower" => [('a', 'z')]
  | "space" => [('\t', '\x0d'), (' ', ' ')]
  | "blank" => [('\t', '\t'), (' ', ' ')]
  | "punct" => [('!', '/'), (':', '@'), ('[', '\x60'), ('\x7b', '~')]
  | "print" => [(' ', '~')]
  | "graph" => [('!', '~')]
  | "cntrl" => [('\x00', '\x1f'), ('\x7f', '\x7f')]
  | "xdigit" => [('0', '9'), ('A', 'F'), ('a', 'f')]
  | _ => []

/-- What a pattern has at one place. -/
inductive Item where
  /-- A character. -/
  | one (c : Char)
  /-- Any character. -/
  | any
  /-- Any text. -/
  | anyText
  /-- A character that lies in some ranges, or in none of them. -/
  | among (negated : Bool) (ranges : List (Char × Char))
deriving DecidableEq

/-- Whether a character fits an item. -/
def Item.has (c : Char) : Item → Bool
  | one d => c == d
  | any => true
  | anyText => true
  | among negated ranges => amongRanges ranges c != negated

/-- A pattern. -/
abbrev Pattern := List Item

namespace Pattern

/-- A character of a pattern, and whether it has its special meaning. -/
abbrev Marked := Char × Bool

/-- The members of a list up to its closing bracket, and what follows it. The first member may be
a closing bracket. -/
def members : Nat → Bool → List Marked → Option (List (Char × Char) × List Marked)
  | 0, _, _ => none
  | _ + 1, _, [] => none
  | fuel + 1, isFirst, (c, special) :: rest =>
    if c = ']' && special && !isFirst then some ([], rest)
    else if c = '[' && special && (rest.head?.map Prod.fst) == some ':' then
      let name := (rest.drop 1).takeWhile fun mark => mark.1.isAlpha
      if (((rest.drop 1).drop name.length).map Prod.fst).take 2 == [':', ']'] then
        (members fuel false (rest.drop (name.length + 3))).map fun (ranges, rest) =>
          (classRanges (String.ofList (name.map Prod.fst)) ++ ranges, rest)
      else (members fuel false rest).map fun (ranges, rest) => ((c, c) :: ranges, rest)
    else
      match rest with
      | ('-', true) :: (d, endSpecial) :: rest' =>
        if d = ']' && endSpecial then
          (members fuel false rest).map fun (ranges, rest) => ((c, c) :: ranges, rest)
        else (members fuel false rest').map fun (ranges, rest) => ((c, d) :: ranges, rest)
      | _ => (members fuel false rest).map fun (ranges, rest) => ((c, c) :: ranges, rest)

/-- A list in brackets without its opening bracket, and what follows it. -/
def bracket? (characters : List Marked) : Option (Item × List Marked) :=
  let (negated, inner) := match characters with
    | ('!', true) :: rest | ('^', true) :: rest => (true, rest)
    | _ => (false, characters)
  (members (inner.length + 1) true inner).map fun (ranges, rest) => (.among negated ranges, rest)

/-- The pattern that characters write down, as far as the fuel goes. -/
def ofMarkedUpTo : Nat → List Marked → Pattern
  | 0, _ => []
  | _ + 1, [] => []
  | fuel + 1, (c, false) :: rest => .one c :: ofMarkedUpTo fuel rest
  | fuel + 1, ('*', true) :: rest => .anyText :: ofMarkedUpTo fuel rest
  | fuel + 1, ('?', true) :: rest => .any :: ofMarkedUpTo fuel rest
  | fuel + 1, ('[', true) :: rest =>
    match bracket? rest with
    | some (item, rest) => item :: ofMarkedUpTo fuel rest
    | none => .one '[' :: ofMarkedUpTo fuel rest
  | fuel + 1, ('\\', true) :: (c, _) :: rest => .one c :: ofMarkedUpTo fuel rest
  | fuel + 1, (c, true) :: rest => .one c :: ofMarkedUpTo fuel rest

/-- The pattern that characters write down. -/
def ofMarked (characters : List Marked) : Pattern :=
  ofMarkedUpTo characters.length characters

/-- What is left of a text after each of its beginnings. -/
def suffixes : List Char → List (List Char)
  | [] => [[]]
  | c :: rest => (c :: rest) :: suffixes rest

/-- Whether a text fits a pattern. -/
def fits : Pattern → List Char → Bool
  | [], text => text.isEmpty
  | .anyText :: rest, text => (suffixes text).any (fits rest)
  | item :: rest, c :: text => item.has c && fits rest text
  | _ :: _, [] => false

/-- The numbers of items that may be cut off, in the order in which they are tried. -/
def lengths {α : Type} (longest : Bool) (items : List α) : List Nat :=
  let all := List.range (items.length + 1)
  if longest then all.reverse else all

end Pattern

end Compositor.Script
