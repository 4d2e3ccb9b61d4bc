import Compositor.Simulation.Script.Matching

set_option autoImplicit false

/-!
# Commands that edit lines

A script of editing commands runs for each line. A command may be confined to some lines. Blocks are
laid out as jumps: what begins a block leads past its end if its lines are others.

## Main definitions

* `Script.Edit.Selector` — the lines to which a command is confined.
* `Script.Edit.Action` — what a command does.
* `Script.Edit.Instruction` — a command with its lines.
* `Script.Edit.substituted?` — a text in which parts have been replaced.
-/

namespace Compositor.Script.Edit

/-- A line, or lines, where a command applies. -/
inductive Address where
  /-- The line with a number. -/
  | line (n : Nat)
  /-- Every so many lines, from a first one on. -/
  | every (first step : Nat)
  /-- The last line. -/
  | last
  /-- Lines in which an expression is found; without one it is the last one that was used. -/
  | found (expression : Option Regular)

/-- Where a range of lines ends. -/
inductive Finish where
  /-- At an address. -/
  | address (address : Address)
  /-- So many lines later. -/
  | later (count : Nat)
  /-- At the next line whose number is a multiple. -/
  | multiple (n : Nat)

/-- The lines to which a command is confined. -/
structure Selector where
  /-- The first line of a range, or the only lines. -/
  first : Option Address
  /-- The end of the range. -/
  last : Option Finish
  /-- Whether all other lines are meant. -/
  negated : Bool

/-- A change of letters in a replacement. -/
inductive CaseChange where
  /-- To small letters from now on. -/
  | lower
  /-- To capital letters from now on. -/
  | upper
  /-- The next letter is small. -/
  | lowerNext
  /-- The next letter is a capital. -/
  | upperNext
  /-- Letters stay as they are from now on. -/
  | keep
deriving DecidableEq

/-- A piece of a replacement. -/
inductive Piece where
  /-- A text. -/
  | text (content : List Char)
  /-- The part of a group; the group zero is all that was found. -/
  | group (n : Nat)
  /-- A change of letters. -/
  | change (change : CaseChange)

/-- A replacement of parts of a line. -/
structure Substitution where
  /-- What is replaced; without an expression it is the last one that was used. -/
  expression : Option Regular
  /-- What is put in its place. -/
  replacement : List Piece
  /-- Whether all parts are replaced, from some part on. -/
  all : Bool
  /-- The number of the first part that is replaced. -/
  first : Nat
  /-- Whether the line is written afterwards. -/
  writes : Bool
  /-- The file to which it is written. -/
  file : Option String

/-- What a command does. -/
inductive Action where
  /-- Begins a block that ends before an instruction. -/
  | block (after : Nat)
  /-- Nothing. -/
  | nothing
  /-- Writes the number of the line. -/
  | number
  /-- Writes a text after the line. -/
  | append (text : String)
  /-- Writes a text before the line. -/
  | insert (text : String)
  /-- Writes a text in place of the lines. -/
  | change (text : String)
  /-- Goes to an instruction. -/
  | branch (target : Nat)
  /-- Goes to an instruction if something was replaced. -/
  | branchIf (target : Nat)
  /-- Goes to an instruction if nothing was replaced. -/
  | branchUnless (target : Nat)
  /-- Drops the line. -/
  | delete
  /-- Drops the first line of several. -/
  | deleteFirst
  /-- Writes the name of the file. -/
  | name
  /-- Takes what was put aside. -/
  | get
  /-- Adds what was put aside. -/
  | getMore
  /-- Puts the line aside. -/
  | hold
  /-- Adds the line to what was put aside. -/
  | holdMore
  /-- Exchanges the line with what was put aside. -/
  | exchange
  /-- Writes the line with its unusual characters made visible, in pieces of a width. -/
  | list (width : Option Nat)
  /-- Takes the next line. -/
  | next
  /-- Adds the next line. -/
  | nextMore
  /-- Writes the line. -/
  | print
  /-- Writes the first line of several. -/
  | printFirst
  /-- Ends, perhaps after writing the line. -/
  | quit (status : Nat) (isQuiet : Bool)
  /-- Writes the content of a file after the line. -/
  | read (path : String)
  /-- Writes the next line of a file after the line. -/
  | readLine (path : String)
  /-- Replaces parts of the line. -/
  | substitute (substitution : Substitution)
  /-- Writes the line to a file. -/
  | write (path : String)
  /-- Writes the first line of several to a file. -/
  | writeFirst (path : String)
  /-- Changes characters. -/
  | translate (pairs : List (Char × Char))
  /-- Empties the line. -/
  | clear

/-- A command with its lines. -/
structure Instruction where
  /-- The lines to which it is confined. -/
  selector : Selector
  /-- What it does. -/
  action : Action

/-! ## Replacing -/

/-- How letters are changed in what is put in place of a part. -/
structure Casing where
  /-- The change of all letters. -/
  all : Option CaseChange
  /-- The change of the next letter. -/
  next : Option CaseChange

/-- A letter after a change. -/
def changedLetter (change : Option CaseChange) (c : Char) : Char :=
  match change with
  | some .lower | some .lowerNext => c.toLower
  | some .upper | some .upperNext => c.toUpper
  | _ => c

/-- Characters after a change, and how letters are changed after them. -/
def Casing.apply (casing : Casing) : List Char → List Char × Casing
  | [] => ([], casing)
  | c :: rest =>
    match casing.next with
    | some change =>
      (changedLetter (some change) c :: rest.map (changedLetter casing.all), ⟨casing.all, none⟩)
    | none => ((c :: rest).map (changedLetter casing.all), casing)

/-- The text that a replacement puts in place of a part. -/
def replaced (text : Array Char) (found : Regular.Match) (pieces : List Piece) : List Char :=
  let step (state : List (List Char) × Casing) (piece : Piece) : List (List Char) × Casing :=
    let (done, casing) := state
    match piece with
    | .text content =>
      let (shown, casing) := casing.apply content
      (shown :: done, casing)
    | .group n =>
      let (shown, casing) := casing.apply (found.groupText text n).toList
      (shown :: done, casing)
    | .change change =>
      match change with
      | .lower | .upper => (done, { casing with all := some change })
      | .keep => (done, ⟨none, none⟩)
      | .lowerNext | .upperNext => (done, { casing with next := some change })
  ((pieces.foldl step ([], ⟨none, none⟩)).1.reverse).flatten

/-- A text in which parts have been replaced, if there are any. -/
def substituted? (substitution : Substitution) (expression : Regular) (content : String) :
    Option String :=
  let text := content.toList.toArray
  let all := if substitution.all || substitution.first ≠ 1 then
      expression.findAll text fun _ _ => true
    else (expression.find? text (fun _ _ => true) 0).toList
  let chosen := all.drop (substitution.first - 1)
  let chosen := if substitution.all then chosen else chosen.take 1
  if chosen.isEmpty then none
  else
    let (done, place) := chosen.foldl
      (fun (state : List (List Char) × Nat) found =>
        (replaced text found substitution.replacement ::
          (text.extract state.2 found.first).toList :: state.1, found.last))
      ([], 0)
    some (String.ofList (done.reverse.flatten ++ (text.extract place text.size).toList))

end Compositor.Script.Edit
