import Compositor.Simulation.Script.Programs.Basic

set_option autoImplicit false

/-!
# Changing characters

Characters are given by lists with ranges, classes and repetitions. Those of one list are changed to
those of another, or dropped, or those that stand next to each other are drawn together.

## Main definitions

* `Script.Programs.Member` — a piece of a list of characters.
* `Script.Programs.membersOf` — the pieces of a list.
* `Script.Programs.tr` — changes characters.
-/

namespace Compositor.Script.Programs

/-- A piece of a list of characters. -/
inductive Member where
  /-- Some characters. -/
  | some (characters : List Char)
  /-- The characters of a class. -/
  | ofClass (name : String)
  /-- A character several times, or as often as needed. -/
  | times (c : Char) (count : Option Nat)

/-- The character at the front of a list, and whether it was marked by a backslash. -/
def frontCharacter? : List Char → Option (Char × Bool × List Char)
  | [] => none
  | ['\\'] => some ('\\', false, [])
  | '\\' :: c :: rest =>
    let digits := ((c :: rest).take 3).takeWhile isOctal
    if !digits.isEmpty then
      let kept := if 255 < ofDigits 8 digits then digits.take 2 else digits
      some (ofOctal kept, true, (c :: rest).drop kept.length)
    else
      let shown := match c with
        | 'a' => '\x07'
        | 'b' => '\x08'
        | 'f' => '\x0c'
        | 'n' => '\n'
        | 'r' => '\r'
        | 't' => '\t'
        | 'v' => '\x0b'
        | c => c
      some (shown, true, rest)
  | c :: rest => some (c, false, rest)

/-- The characters of a list without their backslashes, each with a mark if it had one. -/
def markedCharacters : Nat → List Char → List (Char × Bool)
  | 0, _ => []
  | fuel + 1, text =>
    match frontCharacter? text with
    | none => []
    | some (c, marked, rest) => (c, marked) :: markedCharacters fuel rest

/-- The names of the classes of characters. -/
def classNames : List String :=
  ["alpha", "digit", "alnum", "upper", "lower", "space", "blank", "punct", "print", "graph",
    "cntrl", "xdigit"]

/-- The pieces of a list of characters, or what is wrong with it, as far as the fuel goes. -/
def membersOf : Nat → List (Char × Bool) → Except String (List Member)
  | 0, _ => .ok []
  | _, [] => .ok []
  | fuel + 1, ('[', false) :: (':', false) :: rest =>
    let name := (rest.takeWhile fun entry => entry.1 != ':').map Prod.fst
    match rest.drop name.length with
    | (':', _) :: (']', _) :: after =>
      if classNames.contains (String.ofList name) then
        (membersOf fuel after).map (.ofClass (String.ofList name) :: ·)
      else .error ("invalid character class " ++ inQuotes (String.ofList name))
    | _ => (membersOf fuel ((':', false) :: rest)).map (.some ['['] :: ·)
  | fuel + 1, ('[', false) :: ('=', false) :: (c, _) :: ('=', _) :: (']', _) :: rest =>
    (membersOf fuel rest).map (.some [c] :: ·)
  | fuel + 1, ('[', false) :: (c, marked) :: ('*', false) :: rest =>
    let digits := (rest.takeWhile fun entry => entry.1.isDigit).map Prod.fst
    match rest.drop digits.length with
    | (']', false) :: after =>
      let base := if digits.head? == some '0' then 8 else 10
      let count := ofDigits base digits
      (membersOf fuel after).map
        (.times c (if count = 0 then none else Option.some count) :: ·)
    | _ => (membersOf fuel ((c, marked) :: ('*', false) :: rest)).map (.some ['['] :: ·)
  | fuel + 1, (c, _) :: ('-', false) :: (d, _) :: rest =>
    if d < c then
      .error ("range-endpoints of \x27" ++ String.singleton c ++ "-" ++ String.singleton d ++
        "\x27 are in reverse collating sequence order")
    else
      (membersOf fuel rest).map
        (.some ((List.range (d.toNat - c.toNat + 1)).map fun n => Char.ofNat (c.toNat + n)) :: ·)
  | fuel + 1, (c, _) :: rest => (membersOf fuel rest).map (.some [c] :: ·)

/-- All characters in their order. -/
def allCharacters : List Char :=
  (List.range 256).map Char.ofNat

/-- The characters of a piece. -/
def Member.characters : Member → List Char
  | some characters => characters
  | ofClass name => allCharacters.filter (amongRanges (classRanges name))
  | times c count => List.replicate (count.getD 0) c

/-- The characters of a list that is as long as another one if one of its characters stands as often
as needed. -/
def filled (length : Nat) (members : List Member) : List Char :=
  let others := (members.map fun member => member.characters.length).foldl (· + ·) 0
  members.flatMap fun member =>
    match member with
    | .times c none => List.replicate (length - others) c
    | member => member.characters

/-- A list as long as another one, in which the last character stands again and again. -/
def extended (length : Nat) (characters : List Char) : List Char :=
  match characters.getLast? with
  | some last => characters ++ List.replicate (length - characters.length) last
  | none => characters

/-- Whether the classes of letters in two lists stand at the same places. -/
def areAligned (first second : List Member) : Bool :=
  let starts (members : List Member) : List (Nat × String) :=
    (members.foldl
      (fun (state : Nat × List (Nat × String)) member =>
        let next := state.1 + member.characters.length
        match member with
        | .ofClass name =>
          (next, if name = "upper" || name = "lower" then (state.1, name) :: state.2 else state.2)
        | _ => (next, state.2))
      (0, [])).2
  (starts second).all fun entry => (starts first).any fun other => other.1 == entry.1

/-- A table of what happens to each character. -/
def tableOf (pairs : List (Char × Char)) : Array Char :=
  pairs.foldl (fun table (c, d) => table.setIfInBounds c.toNat d) allCharacters.toArray

/-- A table of some characters. -/
def setOf (characters : List Char) : Array Bool :=
  characters.foldl (fun table c => table.setIfInBounds c.toNat true) (Array.replicate 256 false)

/-- Characters without repetitions of those in a table. -/
def squeezed (table : Array Bool) : Option Char → List Char → List Char
  | _, [] => []
  | last, c :: rest =>
    if last == some c && table.getD c.toNat false then squeezed table last rest
    else c :: squeezed table (some c) rest

/-- What is done with the characters that are read. -/
structure Change where
  /-- The characters that are dropped. -/
  dropped : Array Bool
  /-- The characters in place of others. -/
  table : Array Char
  /-- The characters that are drawn together. -/
  squeezed : Option (Array Bool)

/-- Changes characters. -/
def Change.apply (change : Change) (last : Option Char) (text : String) : String :=
  let kept := text.toList.filterMap fun c =>
    if change.dropped.getD c.toNat false then none else some (change.table.getD c.toNat c)
  match change.squeezed with
  | some table => String.ofList (Programs.squeezed table last kept)
  | none => String.ofList kept

/-- Changes what is read, piece by piece, as far as the fuel goes. -/
def changeAll (change : Change) : Nat → Option Char → Shell Unit
  | 0, _ => pure ()
  | fuel + 1, last => do
    let text ← Shell.takeSome 0
    if text ≠ "" then
      let changed := change.apply last text
      Shell.put changed
      changeAll change fuel ((changed.toList.getLast?).or last)

/-- Changes characters. -/
def tr : Utility := fun arguments => do
  let grammar := Grammar.ordered "tr" "cCdst"
    [("complement", "c"), ("delete", "d"), ("squeeze-repeats", "s"), ("truncate-set1", "t")]
  let options ← grammar.take arguments
  let deletes := options.has "d"
  let squeezes := options.has "s"
  let translates := options.operands.length = 2 && !deletes
  let least := if deletes == squeezes then 2 else 1
  let most := if deletes && !squeezes then 1 else 2
  match options.operands with
  | [] => grammar.missingOperand none
  | first :: rest =>
    if 1 + rest.length < least then
      let told := if deletes then
          "Two strings must be given when both deleting and squeezing repeats."
        else "Two strings must be given when translating."
      report "tr" ("missing operand after " ++ inQuotes first)
      Shell.write 2 (told ++ "\n" ++ grammar.hint)
      leave 1
    if most < 1 + rest.length then
      let extra := (rest[most - 1]?).getD ""
      report "tr" ("extra operand " ++ inQuotes extra)
      Shell.write 2 ((if most = 1 then
        "Only one string may be given when deleting without squeezing repeats.\n" else "") ++
        grammar.hint)
      leave 1
    let read (text : String) : Shell (List Member) := do
      match membersOf (text.length + 1) (markedCharacters (text.length + 1) text.toList) with
      | .ok members => return members
      | .error cause => quit "tr" 1 cause
    let one ← read first
    let two ← read (rest.headD "")
    if one.any fun member => member matches .times _ _ then
      quit "tr" 1 "the [c*] repeat construct may not appear in string1"
    let listed := one.flatMap Member.characters
    let inFirst := setOf listed
    let isComplement := options.has "c" || options.has "C"
    let from_ := if isComplement then
        allCharacters.filter fun c => !inFirst.getD c.toNat false
      else listed
    if translates then
      let isOther (member : Member) : Bool :=
        match member with
        | .ofClass name => name ≠ "upper" && name ≠ "lower"
        | _ => false
      if two.any isOther then
        quit "tr" 1 ("when translating, the only character classes that may appear in\nstring2 " ++
          "are \x27upper\x27 and \x27lower\x27")
      if two.isEmpty && !options.has "t" && !from_.isEmpty then
        quit "tr" 1 "when not truncating set1, string2 must be non-empty"
      if !isComplement && !areAligned one two then
        quit "tr" 1 "misaligned [:upper:] and/or [:lower:] construct"
    let onto := filled from_.length two
    let pairs := if !translates then []
      else if options.has "t" then from_.zip onto
      else from_.zip (extended from_.length onto)
    let drawn := if !squeezes then none
      else if translates || deletes then some (setOf onto)
      else some (setOf from_)
    let change : Change :=
      { dropped := if deletes then setOf from_ else setOf []
        table := tableOf pairs
        squeezed := drawn }
    Shell.finish 0
    changeAll change 1000000 none

end Compositor.Script.Programs
