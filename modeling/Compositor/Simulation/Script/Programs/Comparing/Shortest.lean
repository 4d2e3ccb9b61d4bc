import Compositor.Simulation.Script.Programs.Basic

set_option autoImplicit false

/-!
# Where two lists of lines differ

The lines in which two files differ are found from both ends at once: the place in the middle of a
shortest way from one file to the other cuts the task into two smaller ones. Runs of lines without
partners are then moved as far down as equal lines allow.

## Main definitions

* `Script.Programs.middle?` — a place in the middle of a shortest way from one list to another.
* `Script.Programs.Marks` — which lines of two files have no partners.
* `Script.Programs.marksOf` — the lines without partners of two lists.
* `Script.Programs.Hunk` — lines that stand in place of others.
* `Script.Programs.hunksFrom` — the hunks that marks stand for.
-/

namespace Compositor.Script.Programs


/-! ## A shortest way -/

/-- Two lists of lines of which equal ones have equal numbers. -/
structure Sides where
  /-- The lines of the first list. -/
  left : Array Nat
  /-- The lines of the second list. -/
  right : Array Nat

/-- A part of both lists. -/
structure Span where
  /-- Where the part of the first list begins. -/
  x : Nat
  /-- Where it ends. -/
  xEnd : Nat
  /-- Where the part of the second list begins. -/
  y : Nat
  /-- Where it ends. -/
  yEnd : Nat

/-- How far the search has come on each diagonal, from the front and from the back. -/
structure Fronts where
  /-- The places that are reached from the front. -/
  forward : Array Int
  /-- The places that are reached from the back. -/
  backward : Array Int
  /-- The least diagonal from the front. -/
  forwardLow : Int
  /-- The greatest diagonal from the front. -/
  forwardHigh : Int
  /-- The least diagonal from the back. -/
  backwardLow : Int
  /-- The greatest diagonal from the back. -/
  backwardHigh : Int

/-- Whether lines at two places are equal. -/
def Sides.agree (sides : Sides) (x y : Int) : Bool :=
  0 ≤ x && 0 ≤ y && sides.left[x.toNat]? == sides.right[y.toNat]? &&
    (sides.left[x.toNat]?).isSome

/-- Goes forward over equal lines, as far as the fuel goes. -/
def Sides.slide (sides : Sides) (span : Span) : Nat → Int → Int → Int
  | 0, x, _ => x
  | fuel + 1, x, y =>
    if x < span.xEnd && y < span.yEnd && sides.agree x y then
      sides.slide span fuel (x + 1) (y + 1)
    else x

/-- Goes back over equal lines, as far as the fuel goes. -/
def Sides.slideBack (sides : Sides) (span : Span) : Nat → Int → Int → Int
  | 0, x, _ => x
  | fuel + 1, x, y =>
    if (span.x : Int) < x && (span.y : Int) < y && sides.agree (x - 1) (y - 1) then
      sides.slideBack span fuel (x - 1) (y - 1)
    else x

/-- The value that stands for a place that has not been reached from the back. -/
def unreached : Int := 1000000000

/-- Goes one step further on the diagonals from the front, the greatest first, and finds where the
searches meet, if they do. -/
def Sides.extend (sides : Sides) (span : Span) (offset : Int) (odd : Bool) :
    Nat → Int → Fronts → Fronts × Option (Int × Int)
  | 0, _, fronts => (fronts, none)
  | fuel + 1, d, fronts =>
    if d < fronts.forwardLow then (fronts, none)
    else
      let at_ (k : Int) : Int := fronts.forward.getD (k + offset).toNat (-1)
      let low := at_ (d - 1)
      let high := at_ (d + 1)
      let start := if low < high then high else low + 1
      let x := sides.slide span (sides.left.size + 1) start (start - d)
      let next := { fronts with forward := fronts.forward.setIfInBounds (d + offset).toNat x }
      if odd && fronts.backwardLow ≤ d && d ≤ fronts.backwardHigh &&
          fronts.backward.getD (d + offset).toNat unreached ≤ x then
        (next, some (x, x - d))
      else sides.extend span offset odd fuel (d - 2) next

/-- Goes one step further on the diagonals from the back, the greatest first, and finds where the
searches meet, if they do. -/
def Sides.extendBack (sides : Sides) (span : Span) (offset : Int) (odd : Bool) :
    Nat → Int → Fronts → Fronts × Option (Int × Int)
  | 0, _, fronts => (fronts, none)
  | fuel + 1, d, fronts =>
    if d < fronts.backwardLow then (fronts, none)
    else
      let at_ (k : Int) : Int := fronts.backward.getD (k + offset).toNat unreached
      let low := at_ (d - 1)
      let high := at_ (d + 1)
      let start := if low < high then low else high - 1
      let x := sides.slideBack span (sides.left.size + 1) start (start - d)
      let next := { fronts with backward := fronts.backward.setIfInBounds (d + offset).toNat x }
      if !odd && fronts.forwardLow ≤ d && d ≤ fronts.forwardHigh &&
          x ≤ fronts.forward.getD (d + offset).toNat (-1) then
        (next, some (x, x - d))
      else sides.extendBack span offset odd fuel (d - 2) next

/-- Goes further from both ends until the searches meet, as far as the fuel goes. -/
def Sides.meet (sides : Sides) (span : Span) (offset : Int) (odd : Bool) :
    Nat → Fronts → Option (Int × Int)
  | 0, _ => none
  | fuel + 1, fronts =>
    let least : Int := (span.x : Int) - span.yEnd
    let greatest : Int := (span.xEnd : Int) - span.y
    let put (line : Array Int) (d value : Int) : Array Int :=
      line.setIfInBounds (d + offset).toNat value
    let (low, forward) := if least < fronts.forwardLow then
        (fronts.forwardLow - 1, put fronts.forward (fronts.forwardLow - 2) (-1))
      else (fronts.forwardLow + 1, fronts.forward)
    let (high, forward) := if fronts.forwardHigh < greatest then
        (fronts.forwardHigh + 1, put forward (fronts.forwardHigh + 2) (-1))
      else (fronts.forwardHigh - 1, forward)
    let fronts := { fronts with forward := forward, forwardLow := low, forwardHigh := high }
    match sides.extend span offset odd (forward.size + 1) high fronts with
    | (_, some found) => some found
    | (fronts, none) =>
      let (low, backward) := if least < fronts.backwardLow then
          (fronts.backwardLow - 1, put fronts.backward (fronts.backwardLow - 2) unreached)
        else (fronts.backwardLow + 1, fronts.backward)
      let (high, backward) := if fronts.backwardHigh < greatest then
          (fronts.backwardHigh + 1, put backward (fronts.backwardHigh + 2) unreached)
        else (fronts.backwardHigh - 1, backward)
      let fronts := { fronts with backward := backward, backwardLow := low, backwardHigh := high }
      match sides.extendBack span offset odd (backward.size + 1) high fronts with
      | (_, some found) => some found
      | (fronts, none) => sides.meet span offset odd fuel fronts

/-- A place in the middle of a shortest way through a part of both lists. -/
def middle? (sides : Sides) (span : Span) : Option (Nat × Nat) :=
  let offset : Int := sides.right.size + 2
  let size := sides.left.size + sides.right.size + 5
  let front : Int := (span.x : Int) - span.y
  let back : Int := (span.xEnd : Int) - span.yEnd
  let fronts : Fronts :=
    { forward := (Array.replicate size (-1)).setIfInBounds (front + offset).toNat span.x
      backward := (Array.replicate size unreached).setIfInBounds (back + offset).toNat span.xEnd
      forwardLow := front
      forwardHigh := front
      backwardLow := back
      backwardHigh := back }
  (sides.meet span offset ((front - back) % 2 ≠ 0) (size + 1) fronts).map fun (x, y) =>
    (x.toNat, y.toNat)

/-! ## Lines without partners -/

/-- Which lines of two lists have no partners in the other one. -/
structure Marks where
  /-- Those of the first list. -/
  left : Array Bool
  /-- Those of the second list. -/
  right : Array Bool

/-- Marks the lines without partners in a part of both lists, as far as the fuel goes. -/
def markSpan (sides : Sides) : Nat → Span → Marks → Marks
  | 0, _, marks => marks
  | fuel + 1, span, marks =>
    let limit := min (span.xEnd - span.x) (span.yEnd - span.y)
    let front := ((List.range limit).takeWhile fun i =>
      sides.left[span.x + i]? == sides.right[span.y + i]?).length
    let back := ((List.range (limit - front)).takeWhile fun i =>
      sides.left[span.xEnd - 1 - i]? == sides.right[span.yEnd - 1 - i]?).length
    let inner : Span := ⟨span.x + front, span.xEnd - back, span.y + front, span.yEnd - back⟩
    let markAll (first last : Nat) (line : Array Bool) : Array Bool :=
      (List.range (last - first)).foldl (fun line i => line.setIfInBounds (first + i) true) line
    if inner.x = inner.xEnd then
      { marks with right := markAll inner.y inner.yEnd marks.right }
    else if inner.y = inner.yEnd then
      { marks with left := markAll inner.x inner.xEnd marks.left }
    else
      match middle? sides inner with
      | none => ⟨markAll inner.x inner.xEnd marks.left, markAll inner.y inner.yEnd marks.right⟩
      | some (x, y) =>
        markSpan sides fuel ⟨x, inner.xEnd, y, inner.yEnd⟩
          (markSpan sides fuel ⟨inner.x, x, inner.y, y⟩ marks)

/-! ## Moving marks -/

/-- A run of marked lines that is moved, and the place in the other list that goes with its end. -/
structure Run where
  /-- The marks of the list. -/
  own : Array Bool
  /-- Where the run begins. -/
  start : Nat
  /-- Where it ends. -/
  stop : Nat
  /-- The place in the other list. -/
  place : Nat

/-- Whether a line is marked. -/
def isMarked (marks : Array Bool) (n : Nat) : Bool :=
  marks.getD n false

/-- The first place from some place on that is not marked, as far as the fuel goes. -/
def afterMarks (marks : Array Bool) : Nat → Nat → Nat
  | 0, n => n
  | fuel + 1, n => if isMarked marks n then afterMarks marks fuel (n + 1) else n

/-- The first place of the marks that stand right before a place, as far as the fuel goes. -/
def beforeMarks (marks : Array Bool) : Nat → Nat → Nat
  | 0, n => n
  | fuel + 1, n => if n ≠ 0 && isMarked marks (n - 1) then beforeMarks marks fuel (n - 1) else n

/-- The places after the next line without a mark. -/
def stepOver (other : Array Bool) (place : Nat) : Nat :=
  afterMarks other other.size place + 1

/-- Moves a run back as far as lines are equal, as far as the fuel goes. -/
def moveBack (lines : Array Nat) (other : Array Bool) : Nat → Run → Run
  | 0, run => run
  | fuel + 1, run =>
    if run.start ≠ 0 && lines[run.start - 1]? == lines[run.stop - 1]? then
      let own := (run.own.setIfInBounds (run.start - 1) true).setIfInBounds (run.stop - 1) false
      let start := beforeMarks own own.size (run.start - 1)
      let place := beforeOther (run.place - 1)
      moveBack lines other fuel ⟨own, start, run.stop - 1, place⟩
    else run
where
  /-- The place of the last line without a mark up to some place. -/
  beforeOther (n : Nat) : Nat :=
    ((List.range (n + 1)).reverse.find? fun i => !isMarked other i).getD 0

/-- Moves a run forward as far as lines are equal, and remembers where it last stood beside a run of
the other list, as far as the fuel goes. -/
def moveOn (lines : Array Nat) (other : Array Bool) : Nat → Run → Nat → Run × Nat
  | 0, run, beside => (run, beside)
  | fuel + 1, run, beside =>
    if run.stop < lines.size && lines[run.start]? == lines[run.stop]? then
      let own := (run.own.setIfInBounds run.start false).setIfInBounds run.stop true
      let stop := afterMarks own own.size (run.stop + 1)
      let place := afterMarks other other.size (run.place + 1)
      let beside := if place ≠ run.place + 1 then stop else beside
      moveOn lines other fuel ⟨own, run.start + 1, stop, place⟩ beside
    else (run, beside)

/-- Moves a run to and fro until it does not grow any more, as far as the fuel goes. -/
def settleRun (lines : Array Nat) (other : Array Bool) : Nat → Run → Run × Nat
  | 0, run => (run, lines.size)
  | fuel + 1, run =>
    let size := run.stop - run.start
    let back := moveBack lines other lines.size run
    let beside := if back.place ≠ 0 && isMarked other (back.place - 1) then back.stop
      else lines.size
    let (on, beside) := moveOn lines other lines.size back beside
    if on.stop - on.start = size then (on, beside) else settleRun lines other fuel on

/-- Moves a run back to where it stood beside a run of the other list, as far as the fuel goes. -/
def moveBeside (other : Array Bool) (beside : Nat) : Nat → Run → Run
  | 0, run => run
  | fuel + 1, run =>
    if beside < run.stop then
      let own := (run.own.setIfInBounds (run.start - 1) true).setIfInBounds (run.stop - 1) false
      let place := moveBack.beforeOther other (run.place - 1)
      moveBeside other beside fuel ⟨own, run.start - 1, run.stop - 1, place⟩
    else run

/-- Moves the runs of marked lines of a list from a place on, as far as the fuel goes. -/
def moveRuns (lines : Array Nat) (other : Array Bool) : Nat → Array Bool → Nat → Nat → Array Bool
  | 0, own, _, _ => own
  | fuel + 1, own, i, j =>
    if lines.size ≤ i then own
    else if !isMarked own i then moveRuns lines other fuel own (i + 1) (stepOver other j)
    else
      let run : Run := ⟨own, i, afterMarks own own.size i, afterMarks other other.size j⟩
      let (settled, beside) := settleRun lines other (lines.size + 1) run
      let final := moveBeside other beside lines.size settled
      moveRuns lines other fuel final.own final.stop final.place

/-- The marks for two lists of lines. -/
def marksOf (sides : Sides) : Marks :=
  let m := sides.left.size
  let n := sides.right.size
  let found := markSpan sides (m + n + 2) ⟨0, m, 0, n⟩
    ⟨Array.replicate m false, Array.replicate n false⟩
  let left := moveRuns sides.left found.right (m + 1) found.left 0 0
  ⟨left, moveRuns sides.right left (n + 1) found.right 0 0⟩

/-- Lines that stand in place of others. -/
structure Hunk where
  /-- The number of lines before those of the first list. -/
  x : Nat
  /-- How many lines of the first list these are. -/
  xCount : Nat
  /-- The number of lines before those of the second list. -/
  y : Nat
  /-- How many lines of the second list these are. -/
  yCount : Nat

/-- The hunks from two places on, as far as the fuel goes. -/
def hunksFrom (marks : Marks) : Nat → Nat → Nat → List Hunk
  | 0, _, _ => []
  | fuel + 1, x, y =>
    if marks.left.size ≤ x && marks.right.size ≤ y then []
    else
      let xEnd := afterMarks marks.left marks.left.size x
      let yEnd := afterMarks marks.right marks.right.size y
      if xEnd = x && yEnd = y then hunksFrom marks fuel (x + 1) (y + 1)
      else ⟨x, xEnd - x, y, yEnd - y⟩ :: hunksFrom marks fuel xEnd yEnd

end Compositor.Script.Programs
