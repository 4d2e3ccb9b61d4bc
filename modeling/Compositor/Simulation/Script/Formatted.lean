import Compositor.Simulation.Script.Arithmetic
import Compositor.Simulation.Script.Escapes
import Compositor.Text.Shortest

set_option autoImplicit false

/-!
# Formatted text

A format is a text with places for arguments. It is used again and again until there are no more
arguments; missing ones count as empty or zero.

## Main definitions

* `Script.Layout` — how an argument is laid out.
* `Script.Layout.integer`, `Script.Layout.real` — numbers in a layout.
* `Script.Printed` — what has been made of a format.
* `Script.printed` — text by a format.
-/

namespace Compositor.Script

open Reader

/-- How an argument is laid out. -/
structure Layout where
  /-- The flags. -/
  flags : List Char
  /-- The least number of characters. -/
  width : Nat
  /-- The number of digits or characters, as far as it is given. -/
  precision : Option Nat

namespace Layout

/-- Fills a text up with spaces, or with zeros after its sign. -/
def fill (layout : Layout) (withZeros : Bool) (sign body : List Char) : List Char :=
  let missing := layout.width - (sign.length + body.length)
  if layout.flags.contains '-' then sign ++ body ++ List.replicate missing ' '
  else if withZeros && layout.flags.contains '0' then sign ++ List.replicate missing '0' ++ body
  else List.replicate missing ' ' ++ sign ++ body

/-- The sign of a number. -/
def sign (layout : Layout) (negative : Bool) : List Char :=
  if negative then ['-']
  else if layout.flags.contains '+' then ['+']
  else if layout.flags.contains ' ' then [' ']
  else []

/-- The characters of an argument, as many of them as the precision allows. -/
def text (layout : Layout) (argument : List Char) : List Char :=
  layout.fill false [] (match layout.precision with
    | some n => argument.take n
    | none => argument)

/-- Digits filled up to the precision. -/
def digits (layout : Layout) (base n : Nat) : List Char :=
  let shown := if n = 0 && layout.precision == some 0 then [] else Nat.toDigits base n
  List.replicate (layout.precision.getD 1 - shown.length) '0' ++ shown

/-- The number of different words of 64 bits. -/
def words : Int := 0x10000000000000000

/-- An integer. -/
def integer (layout : Layout) (kind : Char) (n : Int) : List Char :=
  let withZeros := layout.precision.isNone
  let word := (n % words).toNat
  match kind with
  | 'o' =>
    let shown := layout.digits 8 word
    layout.fill withZeros []
      (if layout.flags.contains '#' && shown.head? != some '0' then '0' :: shown else shown)
  | 'x' =>
    layout.fill withZeros (if layout.flags.contains '#' && word ≠ 0 then ['0', 'x'] else [])
      (layout.digits 16 word)
  | 'X' =>
    layout.fill withZeros (if layout.flags.contains '#' && word ≠ 0 then ['0', 'X'] else [])
      ((layout.digits 16 word).map Char.toUpper)
  | 'u' => layout.fill withZeros [] (layout.digits 10 word)
  | _ => layout.fill withZeros (layout.sign (n < 0)) (layout.digits 10 n.natAbs)

/-- The quotient of two numbers, rounded to the nearest number; a tie goes to the even one. -/
def roundedQuotient (a b : Nat) : Nat :=
  let q := a / b
  let twice := 2 * (a % b)
  if twice < b || (twice == b && q % 2 == 0) then q else q + 1

/-- The numerator of a magnitude that is scaled by a power of ten, and its denominator. -/
def scaled (x : Binary) (power : Int) : Nat × Nat :=
  (x.mantissa * Nat.pow 2 x.exponent.toNat * Nat.pow 10 power.toNat,
    Nat.pow 2 (-x.exponent).toNat * Nat.pow 10 (-power).toNat)

/-- Digits with a point before the last of them. -/
def pointed (layout : Layout) (places : Nat) (digits : List Char) : List Char :=
  let all := List.replicate (places + 1 - digits.length) '0' ++ digits
  let whole := all.take (all.length - places)
  if places = 0 then (if layout.flags.contains '#' then whole ++ ['.'] else whole)
  else whole ++ '.' :: all.drop (all.length - places)

/-- A magnitude with a fixed number of places. -/
def fixed (layout : Layout) (places : Nat) (x : Binary) : List Char :=
  let (a, b) := scaled x places
  layout.pointed places (Nat.toDigits 10 (roundedQuotient a b))

/-- The power of ten of the first digit of a magnitude that is rounded to some places after it, and
its digits. -/
def leading (places : Nat) (x : Binary) : Int × List Char :=
  if x.mantissa = 0 then (0, List.replicate (places + 1) '0')
  else
    let size (power : Int) : Bool := let (a, b) := scaled x (-power); decide (b ≤ a)
    let candidates := (List.range 660).map fun (n : Nat) => (330 : Int) - n
    let power := (candidates.find? size).getD 0
    let (a, b) := scaled x (places - power)
    let digits := Nat.toDigits 10 (roundedQuotient a b)
    if digits.length = places + 1 then (power, digits) else (power + 1, digits.take (places + 1))

/-- A power of ten with its sign and at least two digits. -/
def powerText (power : Int) : List Char :=
  let digits := Nat.toDigits 10 power.natAbs
  (if power < 0 then '-' else '+') :: (List.replicate (2 - digits.length) '0' ++ digits)

/-- Digits without the zeros at their end. -/
def withoutZeros (layout : Layout) (body : List Char) : List Char :=
  if layout.flags.contains '#' || !body.contains '.' then body
  else
    let left := body.reverse.dropWhile (· == '0')
    (if left.head? == some '.' then left.tail else left).reverse

/-- A magnitude in one of the notations. -/
def magnitude (layout : Layout) (kind : Char) (x : Binary) : List Char :=
  let places := layout.precision.getD 6
  match kind with
  | 'f' => layout.fixed places x
  | 'e' =>
    let (power, digits) := leading places x
    layout.pointed places digits ++ 'e' :: powerText power
  | _ =>
    let count := if places = 0 then 1 else places
    let (power, digits) := leading (count - 1) x
    if -4 ≤ power ∧ power < count then
      layout.withoutZeros (layout.fixed ((count : Int) - 1 - power).toNat x)
    else
      layout.withoutZeros (layout.pointed (count - 1) digits) ++ 'e' :: powerText power

/-- A real number. -/
def real (layout : Layout) (kind : Char) (x : Float) : List Char :=
  let shown := layout.fill true (layout.sign (Double.isNegative x))
    (layout.magnitude kind.toLower (Double.binary x))
  if kind.isUpper then shown.map Char.toUpper else shown

end Layout

/-! ## Arguments -/

/-- A number that an argument stands for, and what is wrong with the argument. -/
structure Reading (α : Type) where
  /-- The number. -/
  value : α
  /-- What is wrong. -/
  warning : Option String

/-- What is wrong with an argument of which a part is left. -/
def leftover (argument rest : List Char) : Option String :=
  if rest.isEmpty then none
  else if rest.length = argument.length then
    some (String.ofList argument ++ ": expected numeric value")
  else some (String.ofList argument ++ ": not completely converted")

/-- The integer that an argument stands for. After a quote it is the number of a character. -/
def integerOf (argument : List Char) : Reading Int :=
  match argument with
  | '"' :: rest | '\x27' :: rest => ⟨((rest.head?.map Char.toNat).getD 0 : Nat), none⟩
  | _ =>
    let reader : Reader Int := do
      let _ ← span isSpace
      let sign ← optional (only fun c => c == '-' || c == '+')
      let n ← digits
      return if sign == some '-' then -n else n
    match reader argument with
    | some (n, rest) =>
      if Int64.maxValue.toInt < n || n < Int64.minValue.toInt then
        ⟨if n < 0 then Int64.minValue.toInt else Int64.maxValue.toInt,
          some (String.ofList argument ++ ": Numerical result out of range")⟩
      else ⟨n, leftover argument rest⟩
    | none => ⟨0, leftover argument argument⟩

/-- The real number that an argument stands for. -/
def realOf (argument : List Char) : Reading Float :=
  let reader : Reader Float := do
    let _ ← span isSpace
    let sign ← optional (only fun c => c == '-' || c == '+')
    let whole ← span Char.isDigit
    let fraction ← (do symbol ['.']; span Char.isDigit) <|> pure []
    require (!whole.isEmpty || !fraction.isEmpty)
    let power ←
      (do
        symbol ['e'] <|> symbol ['E']
        let sign ← optional (only fun c => c == '-' || c == '+')
        let first ← only Char.isDigit
        let n := ofDigits 10 (first :: (← span Char.isDigit))
        return if sign == some '-' then -(n : Int) else n) <|> pure 0
    let exponent := power - fraction.length
    let x := Float.ofScientific (ofDigits 10 (whole ++ fraction)) (exponent < 0) exponent.natAbs
    return if sign == some '-' then -x else x
  match reader argument with
  | some (x, rest) => ⟨x, leftover argument rest⟩
  | none => ⟨0, leftover argument argument⟩

/-! ## Formats -/

/-- What has been made of a format. -/
structure Printed where
  /-- The text. -/
  text : List Char
  /-- The arguments that are left. -/
  left : List String
  /-- What is wrong with the arguments. -/
  warnings : List String
  /-- Whether nothing more is written. -/
  ends : Bool
  /-- A place in the format that is no place for an argument. -/
  invalid : Option String

/-- Puts text before what has been made of the rest of a format. -/
def Printed.push (text : List Char) (warning : Option String) (rest : Printed) : Printed :=
  { rest with text := text ++ rest.text, warnings := warning.toList ++ rest.warnings }

/-- A number in a layout, which may be taken from the arguments. -/
inductive Measure where
  /-- No number. -/
  | missing
  /-- A number. -/
  | given (n : Nat)
  /-- An argument. -/
  | argument

/-- A place for an argument. -/
structure Slot where
  /-- The flags. -/
  flags : List Char
  /-- The width. -/
  width : Measure
  /-- The precision. -/
  precision : Measure
  /-- How the argument is written. -/
  kind : Char

/-- A width or precision. -/
def measure : Reader Measure :=
  (do symbol ['*']; return .argument) <|>
  (do
    let first ← only Char.isDigit
    return .given (ofDigits 10 (first :: (← span Char.isDigit))))

/-- A place for an argument, without its percent sign. -/
def slot : Reader Slot := do
  let flags ← span ['#', '-', '+', ' ', '0'].contains
  let width ← measure <|> pure .missing
  let precision ← (do symbol ['.']; measure <|> pure (.given 0)) <|> pure .missing
  let kind ← only
    ['d', 'i', 'o', 'u', 'x', 'X', 'e', 'E', 'f', 'F', 'g', 'G', 'c', 's', 'b'].contains
  return ⟨flags, width, precision, kind⟩

/-- A measure with the arguments that are left. -/
def Measure.take (arguments : List String) : Measure → Option Int × List String
  | missing => (none, arguments)
  | given n => (some n, arguments)
  | argument => (some (integerOf (arguments.head?.getD "").toList).value, arguments.tail)

/-- Goes through a format once, as far as the fuel goes. -/
def printedOnce : Nat → List Char → List String → Printed
  | 0, _, arguments => ⟨[], arguments, [], false, none⟩
  | _, [], arguments => ⟨[], arguments, [], false, none⟩
  | fuel + 1, '%' :: '%' :: rest, arguments =>
    (printedOnce fuel rest arguments).push ['%'] none
  | fuel + 1, '%' :: rest, arguments =>
    match slot rest with
    | none =>
      let shown := rest.takeWhile fun c => c.isDigit || ['#', '-', '+', ' ', '.', '*'].contains c
      ⟨[], arguments, [], true, some (String.ofList ('%' :: rest.take (shown.length + 1)))⟩
    | some (slot, rest) =>
      let (width, arguments) := slot.width.take arguments
      let (precision, arguments) := slot.precision.take arguments
      let width := width.getD 0
      let layout : Layout :=
        { flags := if width < 0 then '-' :: slot.flags else slot.flags
          width := width.natAbs
          precision := precision.bind fun n => if n < 0 then none else some n.toNat }
      let argument := (arguments.head?.getD "").toList
      let left := arguments.tail
      match slot.kind with
      | 's' => (printedOnce fuel rest left).push (layout.text argument) none
      | 'c' => (printedOnce fuel rest left).push
          (layout.fill false [] [argument.head?.getD '\x00']) none
      | 'b' =>
        let shown := unescape (String.ofList argument)
        if shown.ends then ⟨layout.text shown.text, left, [], true, none⟩
        else (printedOnce fuel rest left).push (layout.text shown.text) none
      | kind =>
        if ['e', 'E', 'f', 'F', 'g', 'G'].contains kind then
          let x := realOf argument
          (printedOnce fuel rest left).push (layout.real kind x.value) x.warning
        else
          let n := integerOf argument
          (printedOnce fuel rest left).push (layout.integer kind n.value) n.warning
  | fuel + 1, '\\' :: rest, arguments =>
    let (c, rest) := escape rest
    (printedOnce fuel rest arguments).push [c] none
  | fuel + 1, c :: rest, arguments => (printedOnce fuel rest arguments).push [c] none

/-- Uses a format as long as there are arguments, as far as the fuel goes. -/
def printedUpTo (format : List Char) : Nat → List String → Printed
  | 0, arguments => printedOnce format.length format arguments
  | fuel + 1, arguments =>
    let once := printedOnce format.length format arguments
    if once.ends || once.left.isEmpty || once.left.length == arguments.length then once
    else
      let rest := printedUpTo format fuel once.left
      { rest with text := once.text ++ rest.text, warnings := once.warnings ++ rest.warnings }

/-- Text by a format. -/
def printed (format : String) (arguments : List String) : Printed :=
  printedUpTo format.toList arguments.length arguments

end Compositor.Script
