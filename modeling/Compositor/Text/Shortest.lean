set_option autoImplicit false

/-!
# The shortest decimal of a double

A finite positive double stands for every real number that rounds to it. Its *shortest decimal* is
the number with the fewest significant digits in that interval; among several the one nearest to
the double, and of two equally near ones the larger.

The search walks over the decimal grids `10 ^ k` from coarse to fine. If any multiple of `10 ^ k`
lies in the interval, then so does one of the two multiples next to the double itself, so only
these two are tested. All comparisons are made between natural numbers and are exact.

## Main definitions

* `Binary` — a positive double as `mantissa * 2 ^ exponent`.
* `Decimal` — a positive decimal as `digits * 10 ^ exponent`.
* `Binary.shortest` — the shortest decimal.
* `Double.describe` — the text of a double: at least one decimal place, and scientific notation
  below `1e-4` and from `1e16` on.
-/

namespace Compositor

/-- The positive number `mantissa * 2 ^ exponent`. -/
structure Binary where
  /-- The significand. -/
  mantissa : Nat
  /-- The power of two. -/
  exponent : Int

/-- The positive number `digits * 10 ^ exponent`. -/
structure Decimal where
  /-- The significant digits as one number. -/
  digits : Nat
  /-- The power of ten. -/
  exponent : Int

namespace Binary

/-- The interval of numbers that round to a double, as numerators over one denominator. -/
structure Interval where
  /-- The lower end. -/
  low : Nat
  /-- The double itself. -/
  value : Nat
  /-- The upper end. -/
  high : Nat
  /-- The common denominator. -/
  unit : Nat
  /-- Whether the ends themselves round to the double. -/
  closed : Bool

/-- The leading bit of a significand, which only subnormal doubles lack. -/
def leadingBit : Nat := 0x10000000000000

/-- The numbers that round to a double: half a step to either side, except that the step below a
power of two is only half as wide. An even significand wins the ties at both ends. -/
def interval (x : Binary) : Interval :=
  let narrow := x.mantissa == leadingBit && decide (-1074 < x.exponent)
  let up := Nat.pow 2 (x.exponent - 2).toNat
  let down := Nat.pow 2 (2 - x.exponent).toNat
  let value := 4 * x.mantissa
  { low := (if narrow then value - 1 else value - 2) * up
    value := value * up
    high := (value + 2) * up
    unit := down
    closed := x.mantissa % 2 == 0 }

/-- The interval measured in multiples of `10 ^ k`. -/
def Interval.onGrid (i : Interval) (k : Int) : Interval :=
  let finer := Nat.pow 10 (-k).toNat
  { i with
    low := i.low * finer
    value := i.value * finer
    high := i.high * finer
    unit := i.unit * Nat.pow 10 k.toNat }

/-- Whether the whole number `n` lies in the interval. -/
def Interval.admits (i : Interval) (n : Nat) : Bool :=
  if i.closed then decide (i.low ≤ n * i.unit) && decide (n * i.unit ≤ i.high)
  else decide (i.low < n * i.unit) && decide (n * i.unit < i.high)

/-- The whole number of the interval that is nearest to its value, if one of the two neighbours
of the value lies in it. -/
def Interval.nearest? (i : Interval) : Option Nat :=
  let below := i.value / i.unit
  let above := below + 1
  match i.admits below, i.admits above with
  | true, true =>
    if i.value - below * i.unit < above * i.unit - i.value then some below else some above
  | true, false => some below
  | false, true => some above
  | false, false => none

/-- Searches the grids `10 ^ k`, `10 ^ (k - 1)`, … for the first with a number in the interval. -/
def search (i : Interval) : Nat → Int → Decimal
  | 0, k => ⟨(i.onGrid k).value / (i.onGrid k).unit, k⟩
  | fuel + 1, k =>
    match (i.onGrid k).nearest? with
    | some n => ⟨n, k⟩
    | none => search i fuel (k - 1)

/-- A power of ten that is not below the value and at most two powers above it. -/
def leadingPower (i : Interval) : Int :=
  if i.unit ≤ i.value then (Nat.toDigits 10 (i.value / i.unit)).length
  else 1 - (Nat.toDigits 10 (i.unit / i.value)).length

/-- The shortest decimal that rounds to the double. Seventeen digits always suffice. -/
def shortest (x : Binary) : Decimal :=
  search x.interval 20 (leadingPower x.interval)

end Binary

namespace Decimal

/-- The decimal digits, most significant first. -/
def digitList (d : Decimal) : List Char :=
  Nat.toDigits 10 d.digits

/-- The power of ten of the first digit. -/
def magnitude (d : Decimal) : Int :=
  d.exponent + d.digitList.length - 1

/-- Positional notation with at least one decimal place. -/
def positional (d : Decimal) : String :=
  let digits := d.digitList
  if 0 ≤ d.exponent then
    String.ofList (digits ++ List.replicate d.exponent.toNat '0') ++ ".0"
  else
    let places := (-d.exponent).toNat
    if places < digits.length then
      String.ofList (digits.take (digits.length - places)) ++ "." ++
        String.ofList (digits.drop (digits.length - places))
    else
      "0." ++ String.ofList (List.replicate (places - digits.length) '0' ++ digits)

/-- Scientific notation: one digit, the others after a point if there are any, the power of ten. -/
def scientific (d : Decimal) : String :=
  let fraction := d.digitList.drop 1
  let point := if fraction.isEmpty then "" else "."
  String.ofList (d.digitList.take 1) ++ point ++ String.ofList fraction ++ "e" ++
    toString d.magnitude

/-- Positional notation from `1e-4` up to below `1e16`, and scientific notation elsewhere. -/
def text (d : Decimal) : String :=
  if -4 ≤ d.magnitude ∧ d.magnitude < 16 then d.positional else d.scientific

end Decimal

namespace Double

/-- The sign bit. -/
def signBit : Nat := 0x8000000000000000

/-- The bit pattern without its sign bit. -/
def magnitudeBits (x : Float) : Nat :=
  x.toBits.toNat % signBit

/-- Whether the sign bit is set. -/
def isNegative (x : Float) : Bool :=
  decide (signBit ≤ x.toBits.toNat)

/-- The significand and exponent of the magnitude of a finite double. -/
def binary (x : Float) : Binary :=
  let fraction := magnitudeBits x % Binary.leadingBit
  let biased := magnitudeBits x / Binary.leadingBit
  if biased = 0 then ⟨fraction, -1074⟩ else ⟨Binary.leadingBit + fraction, (biased : Int) - 1075⟩

/-- The text of a double in diagnostics. -/
def describe (x : Float) : String :=
  if x.isNaN then "NaN"
  else
    let sign := if isNegative x then "-" else ""
    if x.isInf then sign ++ "inf"
    else if magnitudeBits x = 0 then sign ++ "0.0"
    else sign ++ (binary x).shortest.text

end Double

end Compositor
