import Compositor.Simulation.Script.Programs.Comparing.Shortest

set_option autoImplicit false

/-!
# How differences are written

## Main definitions

* `Script.Programs.Marking` — how lines are marked.
* `Script.Programs.Hunk.plain`, `Script.Programs.Hunk.commands`, `Script.Programs.Hunk.counted` —
  lines that differ, one hunk after another.
* `Script.Programs.unified`, `Script.Programs.contextual` — lines that differ among those around
  them.
* `Script.Programs.conditional`, `Script.Programs.columns` — both files as a whole.
-/

namespace Compositor.Script.Programs

/-! ## Lines -/

/-- How differences are written. -/
structure Marking where
  /-- Whether a tab stands after each mark. -/
  tab : Bool
  /-- What is told above a part of the first file that begins after so many lines. -/
  title : Nat → String

/-- A line after a mark. A missing end is told. -/
def Marking.line (marking : Marking) (mark line : String) : String :=
  let mark := if marking.tab then slice mark 0 1 ++ "\t" else mark
  if line.endsWith "\n" then mark ++ line else mark ++ line ++ "\n\\ No newline at end of file\n"

/-- The lines of a range after a mark. -/
def Marking.lines (marking : Marking) (mark : String) (lines : Array String) (first count : Nat) :
    String :=
  String.join ((List.range count).map fun i => marking.line mark (lines.getD (first + i) ""))

/-- The numbers of the first and last line of a range. -/
def rangeText (first count : Nat) : String :=
  if count ≤ 1 then toString (first + count) else toString (first + 1) ++ "," ++ toString (first + count)

/-- The letter for what happens in a hunk. -/
def Hunk.letter (hunk : Hunk) : String :=
  if hunk.xCount = 0 then "a" else if hunk.yCount = 0 then "d" else "c"

/-- A hunk in the plain form. -/
def Hunk.plain (marking : Marking) (left right : Array String) (hunk : Hunk) : String :=
  rangeText hunk.x hunk.xCount ++ hunk.letter ++ rangeText hunk.y hunk.yCount ++ "\n" ++
    marking.lines "< " left hunk.x hunk.xCount ++
    (if hunk.xCount ≠ 0 && hunk.yCount ≠ 0 then "---\n" else "") ++
    marking.lines "> " right hunk.y hunk.yCount

/-- A hunk as commands for an editor. -/
def Hunk.commands (right : Array String) (hunk : Hunk) : String :=
  rangeText hunk.x hunk.xCount ++ hunk.letter ++ "\n" ++
    if hunk.yCount = 0 then ""
    else
      String.join ((List.range hunk.yCount).map fun i =>
        let line := right.getD (hunk.y + i) ""
        if line.endsWith "\n" then line else line ++ "\n") ++ ".\n"

/-- A hunk as commands with counts. -/
def Hunk.counted (right : Array String) (hunk : Hunk) : String :=
  (if hunk.xCount = 0 then "" else
    "d" ++ toString (hunk.x + 1) ++ " " ++ toString hunk.xCount ++ "\n") ++
  (if hunk.yCount = 0 then "" else
    "a" ++ toString (hunk.x + hunk.xCount) ++ " " ++ toString hunk.yCount ++ "\n" ++
      String.join ((List.range hunk.yCount).map fun i => right.getD (hunk.y + i) ""))

/-- Hunks that stand so near to each other that their surroundings meet, in groups. -/
def nearby (context : Nat) (hunks : List Hunk) : List (List Hunk) :=
  hunks.foldr
    (fun hunk groups =>
      match groups with
      | (next :: group) :: rest =>
        if next.x - (hunk.x + hunk.xCount) ≤ 2 * context then (hunk :: next :: group) :: rest
        else [hunk] :: groups
      | _ => [hunk] :: groups)
    []

/-- The lines of a group of hunks with their surroundings: where they begin and how many there are,
in both lists. -/
def surroundings (context size size' : Nat) (group : List Hunk) : Hunk :=
  match group.head?, group.getLast? with
  | some first, some last =>
    let x := first.x - context
    let y := first.y - context
    let xEnd := min size (last.x + last.xCount + context)
    let yEnd := min size' (last.y + last.yCount + context)
    ⟨x, xEnd - x, y, yEnd - y⟩
  | _, _ => ⟨0, 0, 0, 0⟩

/-- A range with its first line and the number of lines. -/
def countedRange (first count : Nat) : String :=
  if count = 0 then toString first ++ ",0"
  else if count = 1 then toString (first + 1)
  else toString (first + 1) ++ "," ++ toString count

/-- A group of hunks in the form in which both files stand in one column. -/
def unified (marking : Marking) (context : Nat) (left right : Array String) (group : List Hunk) : String :=
  let all := surroundings context left.size right.size group
  let (body, x) := group.foldl
    (fun (state : List String × Nat) hunk =>
      let same := marking.lines " " left state.2 (hunk.x - state.2)
      (marking.lines "+" right hunk.y hunk.yCount ::
        marking.lines "-" left hunk.x hunk.xCount :: same :: state.1, hunk.x + hunk.xCount))
    ([], all.x)
  "@@ -" ++ countedRange all.x all.xCount ++ " +" ++ countedRange all.y all.yCount ++ " @@" ++
    marking.title all.x ++ "\n" ++ String.join body.reverse ++
    marking.lines " " left x (all.x + all.xCount - x)

/-- One file of a group of hunks in the form in which the files stand one after another. -/
def contextSide (marking : Marking) (lines : Array String) (mark : String) (first count : Nat)
    (changes : List (Nat × Nat × Bool)) : String :=
  if changes.all fun change => change.2.1 == 0 then ""
  else
    let (body, n) := changes.foldl
      (fun (state : List String × Nat) (start, size, isBoth) =>
        (marking.lines (if isBoth then "! " else mark) lines start size ::
          marking.lines "  " lines state.2 (start - state.2) :: state.1, start + size))
      ([], first)
    String.join body.reverse ++ marking.lines "  " lines n (first + count - n)

/-- A group of hunks in the form in which the files stand one after another. -/
def contextual (marking : Marking) (context : Nat) (left right : Array String) (group : List Hunk) :
    String :=
  let all := surroundings context left.size right.size group
  let range (first count : Nat) : String :=
    if count ≤ 1 then toString (first + count)
    else toString (first + 1) ++ "," ++ toString (first + count)
  let isBoth (hunk : Hunk) : Bool := hunk.xCount ≠ 0 && hunk.yCount ≠ 0
  "***************" ++ marking.title all.x ++ "\n*** " ++ range all.x all.xCount ++ " ****\n" ++
    contextSide marking left "- " all.x all.xCount
      (group.map fun hunk => (hunk.x, hunk.xCount, isBoth hunk)) ++
    "--- " ++ range all.y all.yCount ++ " ----\n" ++
    contextSide marking right "+ " all.y all.yCount
      (group.map fun hunk => (hunk.y, hunk.yCount, isBoth hunk))

/-- Both files in one, with conditions around lines that stand in one of them only. -/
def conditional (name : String) (left right : Array String) (hunks : List Hunk) : String :=
  let part (lines : Array String) (first count : Nat) : String :=
    String.join ((List.range count).map fun i => lines.getD (first + i) "")
  let (body, x) := hunks.foldl
    (fun (state : List String × Nat) hunk =>
      let same := part left state.2 (hunk.x - state.2)
      let old := part left hunk.x hunk.xCount
      let new := part right hunk.y hunk.yCount
      let text := if hunk.yCount = 0 then
          "#ifndef " ++ name ++ "\n" ++ old ++ "#endif /* ! " ++ name ++ " */\n"
        else if hunk.xCount = 0 then
          "#ifdef " ++ name ++ "\n" ++ new ++ "#endif /* " ++ name ++ " */\n"
        else
          "#ifndef " ++ name ++ "\n" ++ old ++ "#else /* " ++ name ++ " */\n" ++ new ++
            "#endif /* " ++ name ++ " */\n"
      (text :: same :: state.1, hunk.x + hunk.xCount))
    ([], 0)
  String.join body.reverse ++ part left x (left.size - x)

/-- The columns of files side by side: the width of a half, and where the second one begins. -/
def halves (width : Nat) : Nat × Nat :=
  let middle := width / 2 + 5 + width % 2
  let start := middle - middle % 8
  let half := min (start - 3) (width - start)
  (half, if half = 0 then width else start)

/-- Tabs and spaces that lead from one column to another, as far as the fuel goes. -/
def gapText : Nat → Nat → Nat → String
  | 0, _, _ => ""
  | fuel + 1, column, goal =>
    if goal ≤ column then ""
    else
      let stop := column / 8 * 8 + 8
      if stop ≤ goal then "\t" ++ gapText fuel stop goal else spaces (goal - column)

/-- A line of two files side by side. -/
def sideBySide (width : Nat) (left : Option String) (mark : Char) (right : Option String) : String :=
  let (half, start) := halves width
  let cut (line : Option String) : String :=
    slice ((line.getD "").replace "\n" "") 0 half
  let front := cut left
  let back := cut right
  let center := (half + start - 1) / 2
  let isPlain := mark = ' '
  let markText := if isPlain then "" else gapText 100 front.length center ++ String.singleton mark
  let column := if isPlain then front.length else center + 1
  front ++ markText ++ (if right.isNone || (back = "" && isPlain) then ""
    else gapText 100 column start ++ back) ++ "\n"

/-- Two files side by side. -/
def columns (width : Nat) (hidesSame leavesRight : Bool) (left right : Array String) (hunks : List Hunk) :
    String :=
  let same (x y count : Nat) : List String :=
    if hidesSame then []
    else
      (List.range count).map fun i =>
        if leavesRight then sideBySide width left[x + i]? '(' none
        else sideBySide width left[x + i]? ' ' right[y + i]?
  let (body, x, y) := hunks.foldl
    (fun (state : List String × Nat × Nat) hunk =>
      let (body, x, y) := state
      let both := min hunk.xCount hunk.yCount
      let changed := (List.range both).map fun i =>
        sideBySide width left[hunk.x + i]? '|' right[hunk.y + i]?
      let gone := (List.range (hunk.xCount - both)).map fun i =>
        sideBySide width left[hunk.x + both + i]? '<' none
      let new := (List.range (hunk.yCount - both)).map fun i =>
        sideBySide width none '>' right[hunk.y + both + i]?
      (body ++ same x y (hunk.x - x) ++ changed ++ gone ++ new, hunk.x + hunk.xCount,
        hunk.y + hunk.yCount))
    ([], 0, 0)
  String.join (body ++ same x y (left.size - x))

end Compositor.Script.Programs
