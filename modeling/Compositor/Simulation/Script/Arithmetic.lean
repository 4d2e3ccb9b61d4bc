import Compositor.Simulation.Script.Shell
import Compositor.Text.Reader

set_option autoImplicit false

/-!
# Arithmetic

Arithmetic expressions work on integers of 64 bits. They may name variables, and set them.

## Main definitions

* `Script.Sum` — arithmetic expressions.
* `Script.Sum.ofText` — reads an expression.
* `Script.Sum.value` — the value of an expression.
* `Script.evaluate` — the value of an expression that is written down.
-/

namespace Compositor.Script

open Reader

/-- An operator between two numbers. -/
inductive Operator where
  /-- Addition. -/
  | add
  /-- Subtraction. -/
  | subtract
  /-- Multiplication. -/
  | multiply
  /-- Division towards zero. -/
  | divide
  /-- The remainder of a division. -/
  | remainder
  /-- Shifts bits to the left. -/
  | shiftLeft
  /-- Shifts bits to the right. -/
  | shiftRight
  /-- Whether a number is less. -/
  | less
  /-- Whether a number is no greater. -/
  | atMost
  /-- Whether a number is greater. -/
  | greater
  /-- Whether a number is no less. -/
  | atLeast
  /-- Whether numbers are equal. -/
  | equal
  /-- Whether numbers differ. -/
  | different
  /-- The bits of both numbers. -/
  | bitAnd
  /-- The bits of one of two numbers. -/
  | bitXor
  /-- The bits of either number. -/
  | bitOr
deriving DecidableEq

/-- The number that stands for a truth value. -/
def truth (b : Bool) : Int64 := if b then 1 else 0

/-- What an operator makes of two numbers. Nothing can be divided by zero. -/
def Operator.apply? (a b : Int64) : Operator → Option Int64
  | add => some (a + b)
  | subtract => some (a - b)
  | multiply => some (a * b)
  | divide => if b = 0 then none else some (a / b)
  | remainder => if b = 0 then none else some (a % b)
  | shiftLeft => some (a <<< b)
  | shiftRight => some (a >>> b)
  | less => some (truth (a < b))
  | atMost => some (truth (a ≤ b))
  | greater => some (truth (b < a))
  | atLeast => some (truth (b ≤ a))
  | equal => some (truth (a = b))
  | different => some (truth (a ≠ b))
  | bitAnd => some (a &&& b)
  | bitXor => some (a ^^^ b)
  | bitOr => some (a ||| b)

/-- Whether an operator divides. -/
def Operator.divides : Operator → Bool
  | divide | remainder => true
  | _ => false

/-- An arithmetic expression. -/
inductive Sum where
  /-- A number. -/
  | number (n : Int64)
  /-- The value of a variable. -/
  | variable (name : String)
  /-- A number with its sign changed. -/
  | negative (operand : Sum)
  /-- A number with all its bits changed. -/
  | inverse (operand : Sum)
  /-- Whether a number is zero. -/
  | isZero (operand : Sum)
  /-- Two numbers with an operator. -/
  | binary (operator : Operator) (left right : Sum)
  /-- Whether two numbers are not zero; the second is not looked at if the first is. -/
  | and (left right : Sum)
  /-- Whether one of two numbers is not zero; the second is not looked at if the first is not. -/
  | or (left right : Sum)
  /-- The first of two numbers if a third is not zero, and otherwise the second. -/
  | choose (condition whenTrue whenFalse : Sum)
  /-- The value that a variable is set to, perhaps by an operator with its old value. -/
  | assign (name : String) (operator : Option Operator) (operand : Sum)
  /-- An expression after which something else is expected. -/
  | broken (before : Sum) (expected : String)

/-! ## Reading -/

/-- The number that digits stand for. -/
def ofDigits (base : Nat) (digits : List Char) : Nat :=
  digits.foldl
    (fun n c =>
      base * n +
        (if c.isDigit then c.toNat - '0'.toNat
        else if 'a' ≤ c then c.toNat - 'a'.toNat + 10
        else c.toNat - 'A'.toNat + 10))
    0

/-- The digits of a number with their base. -/
def digits : Reader Nat :=
  (do
    symbol ['0', 'x'] <|> symbol ['0', 'X']
    let first ← only fun c => c.isDigit || ('a' ≤ c && c ≤ 'f') || ('A' ≤ c && c ≤ 'F')
    let rest ← span fun c => c.isDigit || ('a' ≤ c && c ≤ 'f') || ('A' ≤ c && c ≤ 'F')
    return ofDigits 16 (first :: rest)) <|>
  (do
    symbol ['0']
    return ofDigits 8 (← span fun c => '0' ≤ c && c ≤ '7')) <|>
  (do
    let first ← only Char.isDigit
    return ofDigits 10 (first :: (← span Char.isDigit)))

/-- Whether a character is a space in an expression. -/
def isSpace (c : Char) : Bool :=
  c == ' ' || ('\t' ≤ c && c ≤ '\x0d')

/-- The number nearest to an integer. -/
def nearest (n : Int) : Int64 :=
  if Int64.maxValue.toInt < n then Int64.maxValue
  else if n < Int64.minValue.toInt then Int64.minValue
  else Int64.ofInt n

/-- A number with a sign, and spaces around it. Only spaces count as zero. -/
def numeral : Reader Int64 := do
  let _ ← span isSpace
  (do
    let sign ← optional (only fun c => c == '-' || c == '+')
    let n ← digits
    let _ ← span isSpace
    let signed : Int := if sign == some '-' then -n else n
    require ((nearest signed).toInt == signed)
    return nearest signed) <|>
  (do
    done
    return 0)

namespace Sum

/-- An operator that is not the beginning of a longer one. -/
def operator (text : String) (others : List Char) : Reader Unit := do
  let _ ← span isSpace
  symbol text.toList
  notBefore others.contains

/-- Expressions with operators of one rank between them. -/
def between (operand : Reader Sum) (operators : List (String × List Char × (Sum → Sum → Sum))) :
    Reader Sum := do
  let any := operators.foldr
    (fun (text, others, make) rest => (do operator text others; return make) <|> rest)
    (failure : Reader (Sum → Sum → Sum))
  let first ← operand
  let rest ← many (do return (← any, ← operand))
  return rest.foldl (fun left (make, right) => make left right) first

/-- The operators by rank, those that bind least first. -/
def ranks : List (List (String × List Char × (Sum → Sum → Sum))) :=
  [[("||", [], or)], [("&&", [], and)], [("|", ['|', '='], binary .bitOr)],
    [("^", ['='], binary .bitXor)], [("&", ['&', '='], binary .bitAnd)],
    [("==", [], binary .equal), ("!=", [], binary .different)],
    [("<=", [], binary .atMost), (">=", [], binary .atLeast), ("<", ['<'], binary .less),
      (">", ['>'], binary .greater)],
    [("<<", ['='], binary .shiftLeft), (">>", ['='], binary .shiftRight)],
    [("+", ['='], binary .add), ("-", ['='], binary .subtract)],
    [("*", ['='], binary .multiply), ("/", ['='], binary .divide),
      ("%", ['='], binary .remainder)]]

/-- The operators with which a variable may be set. -/
def assigners : List (String × Option Operator) :=
  [("=", none), ("+=", some .add), ("-=", some .subtract), ("*=", some .multiply),
    ("/=", some .divide), ("%=", some .remainder), ("<<=", some .shiftLeft),
    (">>=", some .shiftRight), ("&=", some .bitAnd), ("^=", some .bitXor), ("|=", some .bitOr)]

/-- The name of a variable. -/
def name : Reader String := do
  let _ ← span isSpace
  let first ← only fun c => c.isAlpha || c == '_'
  return String.ofList (first :: (← span fun c => c.isAlphanum || c == '_'))

mutual

/-- An expression. -/
def expression : Nat → Reader Sum
  | 0 => failure
  | depth + 1 =>
    (do
      let name ← name
      let assigner ← assigners.foldr
        (fun (text, assigner) rest => (do operator text ['=']; return assigner) <|> rest)
        (failure : Reader (Option Operator))
      return .assign name assigner (← expression depth)) <|>
    conditional depth

/-- An expression that sets no variable, unless in parentheses. -/
def conditional : Nat → Reader Sum
  | 0 => failure
  | depth + 1 => do
    let condition ← ranks.foldr (fun operators operand => between operand operators) (unary depth)
    (do
      operator "?" []
      let whenTrue ← expression depth
      (do
        operator ":" []
        return .choose condition whenTrue (← conditional depth)) <|>
      pure (.broken (.choose condition whenTrue (.number 0)) "\x27:\x27")) <|>
    pure condition

/-- A number or variable, or an expression in parentheses, with the signs before it. Where there is
none of them, one is expected. -/
def unary : Nat → Reader Sum
  | 0 => failure
  | depth + 1 =>
    (do operator "-" ['=']; return .negative (← unary depth)) <|>
    (do operator "+" ['=']; unary depth) <|>
    (do operator "~" []; return .inverse (← unary depth)) <|>
    (do operator "!" ['=']; return .isZero (← unary depth)) <|>
    (do
      operator "(" []
      let inner ← expression depth
      (do
        operator ")" []
        return inner) <|>
      pure (.broken inner "\x27)\x27")) <|>
    (do
      let _ ← span isSpace
      return .number (nearest (← digits))) <|>
    (do return .variable (← name)) <|>
    pure (.broken (.number 0) "primary")

end

/-- Reads an expression that takes up a whole text. -/
def ofText (text : String) : Sum :=
  match expression (4 * (text.length + 2)) text.toList with
  | none => .broken (.number 0) "primary"
  | some (found, rest) =>
    if rest.all isSpace then found else .broken found "EOF"

/-! ## Values -/

/-- Ends the shell because of something that is wrong in an expression. -/
def refuse (text message : String) : Shell Int64 :=
  Shell.fail ("arithmetic expression: " ++ message ++ ": \"" ++ text ++ "\"")

/-- What is expected in an expression whose value does not matter. -/
def expectation? : Sum → Option String
  | number _ => none
  | .variable _ => none
  | negative operand => operand.expectation?
  | inverse operand => operand.expectation?
  | isZero operand => operand.expectation?
  | binary _ left right => left.expectation?.or right.expectation?
  | and left right => left.expectation?.or right.expectation?
  | or left right => left.expectation?.or right.expectation?
  | choose condition whenTrue whenFalse =>
    (condition.expectation?.or whenTrue.expectation?).or whenFalse.expectation?
  | assign _ _ operand => operand.expectation?
  | broken before expected => before.expectation?.or (some expected)

/-- Passes over an expression whose value does not matter. -/
def skip (text : String) (sum : Sum) : Shell Unit :=
  match sum.expectation? with
  | none => pure ()
  | some expected => do
    let _ ← refuse text ("expecting " ++ expected)

/-- What an operator makes of two numbers. The one quotient that is too great ends the shell. -/
def apply (text : String) (operator : Operator) (a b : Int64) : Shell Int64 :=
  if operator.divides && a == Int64.minValue && b == -1 then throw (.killed "FPE")
  else
    match operator.apply? a b with
    | some n => pure n
    | none => refuse text "division by zero"

/-- The value of an expression, which is part of a text. -/
def value (text : String) : Sum → Shell Int64
  | number n => pure n
  | .variable name => do
    let content := ((← get).value? name).getD ""
    match numeral.run content.toList with
    | some n => return n
    | none => Shell.fail ("Illegal number: " ++ content)
  | negative operand => do return -(← operand.value text)
  | inverse operand => do return ~~~(← operand.value text)
  | isZero operand => do return truth ((← operand.value text) = 0)
  | binary operator left right => do
    let a ← left.value text
    let b ← right.value text
    apply text operator a b
  | and left right => do
    let a ← left.value text
    if a = 0 then
      skip text right
      return 0
    else return truth ((← right.value text) ≠ 0)
  | or left right => do
    let a ← left.value text
    if a ≠ 0 then
      skip text right
      return 1
    else return truth ((← right.value text) ≠ 0)
  | choose condition whenTrue whenFalse => do
    let a ← condition.value text
    if a ≠ 0 then
      let b ← whenTrue.value text
      skip text whenFalse
      return b
    else
      skip text whenTrue
      whenFalse.value text
  | assign name operator operand => do
    let b ← operand.value text
    let result ← match operator with
      | none => pure b
      | some operator => do
        let a ← (Sum.variable name).value text
        apply text operator a b
    Shell.assign name (toString result)
    return result
  | broken before expected => do
    let _ ← before.value text
    refuse text ("expecting " ++ expected)

end Sum

/-- The value of an expression that is written down. -/
def evaluate (text : String) : Shell Int64 :=
  (Sum.ofText text).value text

end Compositor.Script
