import Compositor.Toml.Text
import Compositor.Toml.Value

set_option autoImplicit false

/-!
# Numbers, truth values and times of a TOML document

## Main definitions

* `Toml.integer?` — a whole number.
* `Toml.double?` — a double.
* `Toml.moment` — a date, a time of day or both.
* `Toml.scalar` — a value of any of these kinds.
-/

namespace Compositor.Toml

open Reader

/-! ## Numbers -/

/-- The digits of a numeral. An underscore may stand between two digits. -/
def digits? (isDigit : Char → Bool) : List Char → Option (List Char)
  | [] => none
  | c :: rest =>
    if isDigit c then
      match rest with
      | [] => some [c]
      | '_' :: more => (digits? isDigit more).map (c :: ·)
      | d :: more => (digits? isDigit (d :: more)).map (c :: ·)
    else none

/-- The number that digits stand for. -/
def ofDigits (base : Nat) (digits : List Char) : Nat :=
  digits.foldl (fun n c => n * base + (hexValue? c).getD 0) 0

/-- The digits of a decimal numeral. Zero alone begins with a zero. -/
def decimalDigits? (characters : List Char) : Option (List Char) := do
  let digits ← digits? Char.isDigit characters
  guard (digits.head? != some '0' || digits.length == 1)
  return digits

/-- Whether a numeral is negative, and what follows the sign. -/
def signed : List Char → Bool × List Char
  | '-' :: rest => (true, rest)
  | '+' :: rest => (false, rest)
  | rest => (false, rest)

/-- A whole number of 64 bits: a decimal one with or without a sign, or one of another base without
a sign. -/
def integer? (characters : List Char) : Option Int := do
  let number ← match characters with
    | '0' :: 'x' :: digits => inBase 16 (fun c => (hexValue? c).isSome) digits
    | '0' :: 'o' :: digits => inBase 8 (fun c => decide ('0' ≤ c ∧ c ≤ '7')) digits
    | '0' :: 'b' :: digits => inBase 2 (fun c => c == '0' || c == '1') digits
    | _ =>
      let (negative, rest) := signed characters
      (decimalDigits? rest).map fun digits =>
        if negative then -(ofDigits 10 digits : Int) else ofDigits 10 digits
  guard (decide (Int64.minValue.toInt ≤ number) && decide (number ≤ Int64.maxValue.toInt))
  return number
where
  inBase (base : Nat) (isDigit : Char → Bool) (characters : List Char) : Option Int :=
    (digits? isDigit characters).map fun digits => ofDigits base digits

/-- Whether a character separates the exponent of a double. -/
def isExponentMark (c : Char) : Bool :=
  c == 'e' || c == 'E'

/-- The double next to `significand * 10 ^ exponent`. Numbers that are far out of range are not
computed. -/
def scaled (significand : Nat) (exponent : Int) : Float :=
  let magnitude := (Nat.toDigits 10 significand).length + exponent
  if significand = 0 ∨ magnitude < -400 then 0.0
  else if 400 < magnitude then 1.0 / 0.0
  else Float.ofScientific significand (decide (exponent < 0)) exponent.natAbs

/-- A double with decimals, an exponent or both. A positive one may not be too large. -/
def double? (characters : List Char) : Option Float := do
  let (negative, rest) := signed characters
  if rest = ['i', 'n', 'f'] then return if negative then -1.0 / 0.0 else 1.0 / 0.0
  if rest = ['n', 'a', 'n'] then return 0.0 / 0.0
  guard (rest.any fun c => c == '.' || isExponentMark c)
  let mantissa := rest.takeWhile fun c => !isExponentMark c
  let whole ← decimalDigits? (mantissa.takeWhile (· != '.'))
  let decimals ← match mantissa.dropWhile (· != '.') with
    | [] => some []
    | _ :: decimals => digits? Char.isDigit decimals
  let exponent ← match rest.dropWhile fun c => !isExponentMark c with
    | [] => some 0
    | _ :: exponent =>
      let (down, digits) := signed exponent
      (digits? Char.isDigit digits).map fun digits =>
        if down then -(ofDigits 10 digits : Int) else ofDigits 10 digits
  let number := scaled (ofDigits 10 (whole ++ decimals)) (exponent - decimals.length)
  guard (negative || number.isFinite)
  return if negative then -number else number

/-- A truth value. -/
def truth? (characters : List Char) : Option Bool :=
  if characters = ['t', 'r', 'u', 'e'] then some true
  else if characters = ['f', 'a', 'l', 's', 'e'] then some false
  else none

/-! ## Times -/

/-- A number of so many digits, between two limits. -/
def field (width low high : Nat) : Reader Nat := do
  let characters ← (List.replicate width ()).mapM fun _ => only Char.isDigit
  let n := ofDigits 10 characters
  require (decide (low ≤ n) && decide (n ≤ high))
  return n

/-- The number of days of a month. -/
def monthLength (year month : Nat) : Nat :=
  if month = 2 then
    if year % 4 = 0 ∧ (year % 100 ≠ 0 ∨ year % 400 = 0) then 29 else 28
  else if month = 4 ∨ month = 6 ∨ month = 9 ∨ month = 11 then 30
  else 31

/-- A day of the calendar. -/
def date : Reader Unit := do
  let year ← field 4 0 9999
  symbol ['-']
  let month ← field 2 1 12
  symbol ['-']
  let _ ← field 2 1 (monthLength year month)

/-- A time of day. A minute may have a leap second. -/
def timeOfDay : Reader Unit := do
  let _ ← field 2 0 23
  symbol [':']
  let _ ← field 2 0 59
  symbol [':']
  let _ ← field 2 0 60
  let _ ← optional do
    symbol ['.']
    let decimals ← span Char.isDigit
    require (!decimals.isEmpty)

/-- The distance of a time from universal time. -/
def offset : Reader Unit := do
  let sign ← only fun c => c == 'Z' || c == 'z' || c == '+' || c == '-'
  if sign == '+' || sign == '-' then
    let _ ← field 2 0 23
    symbol [':']
    let _ ← field 2 0 59

/-- A date, a time of day or both. -/
def moment : Reader Unit :=
  (do
    date
    let _ ← optional do
      let _ ← only fun c => c == 'T' || c == 't' || c == ' '
      timeOfDay
      let _ ← optional offset) <|>
  timeOfDay

/-! ## Scalars -/

/-- Whether a character can belong to a number, a truth value or a time. -/
def isScalar (c : Char) : Bool :=
  c.isAlphanum || c == '+' || c == '-' || c == '.' || c == ':' || c == '_'

/-- A value that stands without quotes. -/
def scalar : Reader Value :=
  (do
    let before ← get
    moment
    notBefore isScalar
    return .moment (String.ofList (before.take (before.length - (← get).length)))) <|>
  (do
    let characters ← span isScalar
    match integer? characters with
    | some number => return .integer number
    | none =>
      match double? characters with
      | some number => return .double number
      | none =>
        match truth? characters with
        | some value => return .truth value
        | none => failure)

end Compositor.Toml
