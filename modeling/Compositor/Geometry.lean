set_option autoImplicit false

/-!
# Geometry of the layout

Layout coordinates are 32-bit signed integers, the pointer moves in doubles. Ordinary sums and
differences of coordinates must not leave the 32-bit range; where a drag may push a border
anywhere, sums and differences stop at the ends of the range instead.

## Main definitions

* `Coordinate`, `Point`, `Box` — integers, places and boxes in the layout.
* `Coordinate.add`, `Coordinate.sub` — exact arithmetic, which reports an `Overflow`.
* `Coordinate.saturatingAdd`, `Coordinate.saturatingSub` — arithmetic that stops at the ends.
* `Coordinate.ofDouble`, `Coordinate.toDouble` — to and from pointer coordinates.
* `Box.right`, `Box.bottom`, `Box.translated`, `Box.contains`.

## Main results

* `Coordinate.toInt_saturatingAdd`, `Coordinate.toInt_saturatingSub` — the saturating operations
  are the unbounded ones followed by a clamp.
-/

namespace Compositor

/-- A coordinate or length of the layout. -/
abbrev Coordinate := Int32

/-- An exact sum or difference left the 32-bit range. -/
inductive Overflow where
  /-- A sum did. -/
  | addition
  /-- A difference did. -/
  | subtraction
deriving DecidableEq

/-- The diagnostic of an overflow. -/
def Overflow.message : Overflow → String
  | addition => "attempt to add with overflow"
  | subtraction => "attempt to subtract with overflow"

namespace Coordinate

/-- Whether an unbounded integer is a coordinate. -/
def Fits (n : Int) : Prop := -2147483648 ≤ n ∧ n ≤ 2147483647

instance (n : Int) : Decidable (Fits n) := inferInstanceAs (Decidable (_ ∧ _))

/-- Brings an unbounded integer into the range of coordinates. -/
def clamp (n : Int) : Int := max (-2147483648) (min n 2147483647)

/-- The exact sum. -/
def add (a b : Coordinate) : Except Overflow Coordinate :=
  if Fits (a.toInt + b.toInt) then .ok (a + b) else .error .addition

/-- The exact difference. -/
def sub (a b : Coordinate) : Except Overflow Coordinate :=
  if Fits (a.toInt - b.toInt) then .ok (a - b) else .error .subtraction

/-- The sum, or the end of the range on its side. -/
def saturatingAdd (a b : Coordinate) : Coordinate :=
  Int32.ofIntClamp (a.toInt + b.toInt)

/-- The difference, or the end of the range on its side. -/
def saturatingSub (a b : Coordinate) : Coordinate :=
  Int32.ofIntClamp (a.toInt - b.toInt)

/-- The whole part of a double, the end of the range on its side if that is no coordinate, and
zero for what is not a number. -/
def ofDouble (x : Float) : Coordinate :=
  x.toModel.toInt32

/-- The double of the same value. -/
def toDouble (n : Coordinate) : Float :=
  .ofModel (.ofInt32 n)

/-- Clamping leaves what fits as it is. -/
theorem clamp_of_fits {n : Int} (h : Fits n) : clamp n = n := by
  unfold Fits at h
  unfold clamp
  omega

/-- Clamping on the way to a coordinate is clamping in the integers. -/
theorem toInt_ofIntClamp (n : Int) : (Int32.ofIntClamp n).toInt = clamp n := by
  have hmin : Int32.minValue.toInt = -2147483648 := by decide
  have hmax : Int32.maxValue.toInt = 2147483647 := by decide
  by_cases low : -2147483648 ≤ n
  · by_cases high : n ≤ 2147483647
    · rw [Int32.toInt_ofIntClamp (by omega) (by omega), clamp]
      omega
    · rw [Int32.ofIntClamp, dif_pos (by omega), dif_neg (by omega), hmax, clamp]
      omega
  · rw [Int32.ofIntClamp, dif_neg (by omega), hmin, clamp]
    omega

/-- A saturating sum is the clamped sum of the integers. -/
theorem toInt_saturatingAdd (a b : Coordinate) :
    (saturatingAdd a b).toInt = clamp (a.toInt + b.toInt) :=
  toInt_ofIntClamp _

/-- A saturating difference is the clamped difference of the integers. -/
theorem toInt_saturatingSub (a b : Coordinate) :
    (saturatingSub a b).toInt = clamp (a.toInt - b.toInt) :=
  toInt_ofIntClamp _

end Coordinate

/-- A pair of values, one for each axis. -/
structure Point (α : Type) where
  /-- The horizontal value. -/
  x : α
  /-- The vertical value. -/
  y : α
deriving DecidableEq

/-- A box in the layout. Its far edges are `x + width` and `y + height`. -/
structure Box where
  /-- The left edge. -/
  x : Coordinate
  /-- The upper edge. -/
  y : Coordinate
  /-- The horizontal extent. -/
  width : Coordinate
  /-- The vertical extent. -/
  height : Coordinate
deriving DecidableEq

namespace Box

/-- The empty box at the origin. -/
def empty : Box := ⟨0, 0, 0, 0⟩

/-- The right edge. -/
def right (box : Box) : Except Overflow Coordinate :=
  Coordinate.add box.x box.width

/-- The lower edge. -/
def bottom (box : Box) : Except Overflow Coordinate :=
  Coordinate.add box.y box.height

/-- The box shifted by an offset, its horizontal edge first. -/
def translated (box : Box) (offset : Point Coordinate) : Except Overflow Box := do
  let x ← Coordinate.add box.x offset.x
  let y ← Coordinate.add box.y offset.y
  return { box with x, y }

/-- Whether the box contains a point: near edges inclusive, far edges exclusive. The four
conditions are tested in turn, and a far edge is computed only once the near one has passed. -/
def contains (box : Box) (point : Point Float) : Except Overflow Bool := do
  if ¬ box.x.toDouble ≤ point.x then return false
  let right ← box.right
  if ¬ point.x < Coordinate.toDouble right then return false
  if ¬ box.y.toDouble ≤ point.y then return false
  let bottom ← box.bottom
  return decide (point.y < Coordinate.toDouble bottom)

end Box

end Compositor
