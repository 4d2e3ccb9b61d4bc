import Compositor.Simulation.Script.Regular
import Std.Data.HashSet

set_option autoImplicit false

/-!
# Where regular expressions fit

A regular expression is found in a text where it first fits, and there it takes the longest part of
the text. Of the ways to take that part the first counts: repetitions take what they can, and the
first of two expressions goes before the second. Groups remember the parts that they took last.

## Main definitions

* `Script.Regular.Match` — a part of a text that an expression takes.
* `Script.Regular.ends` — the places up to which an expression can go.
* `Script.Regular.find?` — the first part that an expression takes.
* `Script.Regular.findAll` — the parts that an expression takes one after another.
-/

namespace Compositor.Script.Regular

/-- A place in a text, with the parts that groups have taken. -/
structure Position where
  /-- The number of characters before the place. -/
  place : Nat
  /-- The groups with the places before and after their parts. -/
  groups : List (Nat × Nat × Nat)

/-- A part of a text that an expression takes. -/
structure Match where
  /-- The number of characters before the part. -/
  first : Nat
  /-- The number of characters up to its end. -/
  last : Nat
  /-- The groups with the places before and after their parts. -/
  groups : List (Nat × Nat × Nat)

/-- Whether a character belongs to a word. -/
def isWord (c : Option Char) : Bool :=
  c.any (amongRanges wordRanges)

/-- The character before a place. -/
def before? (text : Array Char) (place : Nat) : Option Char :=
  if place = 0 then none else text[place - 1]?

/-- Whether words begin or end at a place. -/
def isEdge (text : Array Char) (begins ends : Bool) (place : Nat) : Bool :=
  let left := isWord (before? text place)
  let right := isWord text[place]?
  (begins && !left && right) || (ends && left && !right)

/-- Positions of which each stands at another place; of those at one place the first one counts. -/
def distinct (positions : List Position) : List Position :=
  match positions with
  | [] | [_] => positions
  | _ =>
    (positions.foldl
      (fun (state : Std.HashSet Nat × List Position) position =>
        if state.1.contains position.place then state
        else (state.1.insert position.place, position :: state.2))
      (∅, [])).2.reverse

/-- The number of characters from a place on that lie in some ranges, or in none of them, up to a
number. -/
def runLength (text : Array Char) (negated : Bool) (ranges : List (Char × Char)) :
    Nat → Nat → Nat
  | 0, _ => 0
  | most + 1, place =>
    match text[place]? with
    | some c =>
      if amongRanges ranges c != negated then runLength text negated ranges most (place + 1) + 1
      else 0
    | none => 0

/-- The positions after rounds of a step, most rounds first, with the places that have been
reached. Each round must take something. -/
def rounds (step : Position → List Position) :
    Nat → Std.HashSet Nat → List Position → Std.HashSet Nat × List Position
  | 0, reached, _ => (reached, [])
  | _, reached, [] => (reached, [])
  | fuel + 1, reached, position :: others =>
    if reached.contains position.place then rounds step fuel reached others
    else
      let reached := reached.insert position.place
      let further := (step position).filter fun next => position.place < next.place
      let (reached, deeper) := rounds step fuel reached further
      let (reached, rest) := rounds step fuel reached others
      (reached, deeper ++ position :: rest)

/-- The positions after at most so many rounds of a step, most rounds first. -/
def roundsUpTo (step : Position → List Position) : Nat → Position → List Position
  | 0, position => [position]
  | most + 1, position =>
    let further := (step position).filter fun next => position.place < next.place
    distinct (further.flatMap (roundsUpTo step most) ++ [position])

/-- The positions after rounds of a step, where places may be reached in several ways. -/
def allRounds (step : Position → List Position) : Nat → Position → List Position
  | 0, position => [position]
  | fuel + 1, position =>
    let further := (step position).filter fun next => position.place < next.place
    further.flatMap (allRounds step fuel) ++ [position]

/-- The positions after the parts of the text that an expression can take. If places count only
once, each of them is given only once. -/
def ends (text : Array Char) (once : Bool) : Regular → Position → List Position
  | empty, position => [position]
  | one negated ranges, position =>
    match text[position.place]? with
    | none => []
    | some c =>
      if amongRanges ranges c != negated then [{ position with place := position.place + 1 }]
      else []
  | start, position => if position.place = 0 then [position] else []
  | finish, position => if position.place = text.size then [position] else []
  | lineStart, position =>
    if position.place = 0 || before? text position.place == some '\n' then [position] else []
  | lineFinish, position =>
    if position.place = text.size || text[position.place]? == some '\n' then [position] else []
  | edge begins ends, position =>
    if isEdge text begins ends position.place then [position] else []
  | inside, position => if isEdge text true true position.place then [] else [position]
  | andThen first second, position =>
    match ends text once first position with
    | [] => []
    | [single] => ends text once second single
    | several =>
      let found := several.flatMap (ends text once second)
      if once then distinct found else found
  | either first second, position =>
    let found := ends text once first position ++ ends text once second position
    if once then distinct found else found
  | repeated least most (one negated ranges), position =>
    let limit := most.getD (text.size - position.place)
    let length := runLength text negated ranges limit position.place
    if length < least then []
    else
      (List.range (length + 1 - least)).map fun n =>
        { position with place := position.place + length - n }
  | repeated least most inner, position =>
    let step := ends text once inner
    let shared (positions : List Position) : List Position :=
      if once then distinct positions else positions
    let begun := Nat.repeat (fun positions => shared (positions.flatMap step)) least [position]
    match most with
    | some most => shared (begun.flatMap (roundsUpTo step (most - least)))
    | none =>
      if once then (rounds step (2 * text.size + begun.length + 4) ∅ begun).2
      else begun.flatMap (allRounds step (text.size + 1 - position.place))
  | group n inner, position =>
    (ends text once inner position).map fun last =>
      { last with
        groups := (n, position.place, last.place) ::
          last.groups.filter fun entry => entry.1 != n }
  | same n, position =>
    match position.groups.lookup n with
    | none => []
    | some (first, last) =>
      let length := last - first
      if (List.range length).all fun i => text[first + i]? == text[position.place + i]? then
        [{ position with place := position.place + length }]
      else []

/-- Whether an expression may begin by taking a character, and whether it may take nothing. -/
def opening (atStart : Bool) (c : Option Char) : Regular → Bool × Bool
  | one negated ranges => (c.any fun c => amongRanges ranges c != negated, false)
  | start => (false, atStart)
  | finish => (false, c.isNone)
  | andThen first second =>
    let (eats, skips) := first.opening atStart c
    let (eatsNext, skipsNext) := second.opening atStart c
    (eats || (skips && eatsNext), skips && skipsNext)
  | either first second =>
    let (eats, skips) := first.opening atStart c
    let (eatsOther, skipsOther) := second.opening atStart c
    (eats || eatsOther, skips || skipsOther)
  | repeated least _ inner =>
    let (eats, skips) := inner.opening atStart c
    (eats, skips || least = 0)
  | group _ inner => inner.opening atStart c
  | same _ => (true, true)
  | _ => (false, true)

/-- The longest part that an expression takes from a place on, among those with an end that is
accepted. -/
def longest? (expression : Regular) (text : Array Char) (accepts : Nat → Nat → Bool)
    (first : Nat) : Option Match :=
  let (eats, skips) := expression.opening (first = 0) text[first]?
  if !eats && !skips then none
  else
    let found := ends text (expression.greatestSame = 0) expression ⟨first, []⟩
    let best := (found.filter fun last => accepts first last.place).foldl
      (fun (best : Option Position) next =>
        match best with
        | some known => if known.place < next.place then some next else best
        | none => some next)
      none
    best.map fun last => ⟨first, last.place, last.groups⟩

/-- The first part that an expression takes from one of so many places on. -/
def findWithin (expression : Regular) (text : Array Char) (accepts : Nat → Nat → Bool) :
    Nat → Nat → Option Match
  | 0, _ => none
  | count + 1, first =>
    match expression.longest? text accepts first with
    | some found => some found
    | none => findWithin expression text accepts count (first + 1)

/-- The first part with accepted ends that an expression takes from a place on. -/
def find? (expression : Regular) (text : Array Char) (accepts : Nat → Nat → Bool) (from_ : Nat) :
    Option Match :=
  findWithin expression text accepts (text.size + 1 - from_) from_

/-- Whether an expression fits somewhere in a text. -/
def isFound (expression : Regular) (text : Array Char) : Bool :=
  (expression.find? text (fun _ _ => true) 0).isSome

/-- The parts that an expression takes one after another, as far as the fuel goes. An empty part
does not stand right after another part. -/
def findAllUpTo (expression : Regular) (text : Array Char) (accepts : Nat → Nat → Bool) :
    Nat → Nat → Option Nat → List Match
  | 0, _, _ => []
  | fuel + 1, from_, last =>
    match expression.find? text accepts from_ with
    | none => []
    | some found =>
      if found.last = found.first then
        let rest := findAllUpTo expression text accepts fuel (found.last + 1) none
        if last == some found.first then rest else found :: rest
      else found :: findAllUpTo expression text accepts fuel found.last (some found.last)

/-- The parts that an expression takes one after another. -/
def findAll (expression : Regular) (text : Array Char) (accepts : Nat → Nat → Bool) : List Match :=
  findAllUpTo expression text accepts (text.size + 2) 0 none

/-- A part of a text. -/
def part (text : Array Char) (first last : Nat) : String :=
  String.ofList (text.extract first last).toList

/-- The part that a group has taken. -/
def Match.groupText (found : Match) (text : Array Char) (number : Nat) : String :=
  if number = 0 then part text found.first found.last
  else
    match found.groups.lookup number with
    | some (first, last) => part text first last
    | none => ""

end Compositor.Script.Regular
