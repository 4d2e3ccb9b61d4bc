import Compositor.Simulation.Script.Programs.Fields
import Compositor.Simulation.Script.Programs.Sorting

set_option autoImplicit false

/-!
# Programs for numbers

## Main definitions

* `Script.Programs.Term` — a number of a sequence as it was written.
* `Script.Programs.seq` — writes a sequence of numbers.
* `Script.Programs.expr` — computes with words.
* `Script.Programs.numfmt` — writes numbers with units.
* `Script.Programs.numberTable` — the programs for numbers.
-/

namespace Compositor.Script.Programs

/-! ## Sequences -/

/-- A number of a sequence as it was written. -/
structure Term where
  /-- The number. -/
  value : Decimal
  /-- The number of characters that it was written with. -/
  width : Nat

/-- The number that a text stands for. -/
def Term.ofText? (text : String) : Option Term :=
  let body := (text.toList.dropWhile isSpace)
  let body := if body.head? == some '+' then body.drop 1 else body
  let negative := body.head? == some '-'
  let unsigned := if negative then body.drop 1 else body
  let sign (n : Nat) : Int := if negative then -(n : Int) else n
  match unsigned with
  | '0' :: x :: digits =>
    if (x = 'x' || x = 'X') && !digits.isEmpty && digits.all fun c => (hexValue c).isSome then
      some ⟨⟨sign (digits.foldl (fun n c => 16 * n + (hexValue c).getD 0) 0), 0⟩, body.length⟩
    else plain sign body.length unsigned
  | _ => plain sign body.length unsigned
where
  /-- The value of a hexadecimal digit. -/
  hexValue (c : Char) : Option Nat :=
    if c.isDigit then some (c.toNat - 48)
    else if 'a' ≤ c ∧ c ≤ 'f' then some (c.toNat - 87)
    else if 'A' ≤ c ∧ c ≤ 'F' then some (c.toNat - 55)
    else none
  /-- The number that digits stand for. -/
  plain (sign : Nat → Int) (width : Nat) (unsigned : List Char) : Option Term :=
    let whole := unsigned.takeWhile Char.isDigit
    let rest := unsigned.drop whole.length
    let (fraction, rest) := match rest with
      | '.' :: after => (after.takeWhile Char.isDigit, after.dropWhile Char.isDigit)
      | _ => ([], rest)
    if whole.isEmpty && fraction.isEmpty then none
    else
      let n := ofDigits 10 (whole ++ fraction)
      match rest with
      | [] => some ⟨⟨sign n, fraction.length⟩, width⟩
      | e :: exponent =>
        if e ≠ 'e' && e ≠ 'E' then none
        else
          let down := exponent.head? == some '-'
          let digits := if down || exponent.head? == some '+' then exponent.drop 1 else exponent
          if digits.isEmpty || !digits.all Char.isDigit then none
          else
            let power := ofDigits 10 digits
            if down then some ⟨⟨sign n, fraction.length + power⟩, width⟩
            else if power ≤ fraction.length then some ⟨⟨sign n, fraction.length - power⟩, width⟩
            else some ⟨⟨sign (n * Nat.pow 10 (power - fraction.length)), 0⟩, width⟩

/-- A decimal number with a number of places, filled up with zeros to a width. -/
def decimalText (width places : Nat) (value : Decimal) : String :=
  let scaled := value.mantissa.natAbs * Nat.pow 10 (places - value.places)
  let digits := Nat.toDigits 10 scaled
  let all := List.replicate (places + 1 - digits.length) '0' ++ digits
  let whole := all.take (all.length - places)
  let body := whole ++ (if places = 0 then [] else '.' :: all.drop (all.length - places))
  let sign := if value.mantissa < 0 then ['-'] else []
  String.ofList (sign ++ List.replicate (width - sign.length - body.length) '0' ++ body)

/-- A format with one place for a number: the text before it, how the number is laid out, and the
text after it. -/
structure NumberFormat where
  /-- The text before it. -/
  before : List Char
  /-- How the number is laid out. -/
  layout : Layout
  /-- How it is written. -/
  kind : Char
  /-- The text after it. -/
  after : List Char

/-- The text of a format up to its place for a number, and what is left. -/
def upToPlace : List Char → List Char × List Char
  | [] => ([], [])
  | '%' :: '%' :: rest =>
    let (text, left) := upToPlace rest
    ('%' :: text, left)
  | '%' :: rest => ([], '%' :: rest)
  | c :: rest =>
    let (text, left) := upToPlace rest
    (c :: text, left)

/-- The format that a text stands for, or what is wrong with it. -/
def NumberFormat.ofText (kinds : List Char) (text : String) : Except String NumberFormat :=
  let wrong (what : String) : Except String NumberFormat :=
    .error ("format " ++ inQuotes text ++ " has " ++ what)
  match upToPlace text.toList with
  | (_, []) => wrong "no % directive"
  | (before, _ :: rest) =>
    let flags := rest.takeWhile ['#', '-', '+', ' ', '0', '\x27'].contains
    let rest := rest.drop flags.length
    let width := rest.takeWhile Char.isDigit
    let rest := rest.drop width.length
    let (precision, rest) := match rest with
      | '.' :: after =>
        (some (ofDigits 10 (after.takeWhile Char.isDigit)), after.dropWhile Char.isDigit)
      | _ => (none, rest)
    match rest with
    | [] => .error ("format " ++ inQuotes text ++ " ends in %")
    | kind :: rest =>
      if !kinds.contains kind then
        wrong ("unknown %" ++ String.singleton kind ++ " directive")
      else
        match upToPlace rest with
        | (after, []) => .ok ⟨before, ⟨flags, ofDigits 10 width, precision⟩, kind, after⟩
        | _ => wrong "too many % directives"

/-- A decimal number as a real one. -/
def Decimal.toFloat (value : Decimal) : Float :=
  let size := Float.ofScientific value.mantissa.natAbs true value.places
  if value.mantissa < 0 then -size else size

/-- A number in a format. -/
def NumberFormat.write (format : NumberFormat) (value : Decimal) : String :=
  String.ofList (format.before ++ format.layout.real format.kind value.toFloat ++ format.after)

/-- Writes the terms of a sequence, many at a time, as far as the fuel goes. -/
def writeTerms (text : Nat → String) (separator : String) (count : Option Nat) :
    Nat → Nat → Shell Unit
  | 0, _ => pure ()
  | fuel + 1, done => do
    let size := match count with
      | some n => min 4096 (n - done)
      | none => 4096
    if size ≠ 0 then
      let terms := (List.range size).map fun i => text (done + i)
      let isLast := count == some (done + size)
      Shell.put ((if done = 0 then "" else separator) ++ separator.intercalate terms ++
        if isLast then "\n" else "")
      if !isLast then writeTerms text separator count fuel (done + size)

/-- Writes a sequence of numbers. -/
def seq : Utility := fun arguments => do
  let grammar := Grammar.ordered "seq" "f:s:w"
    [("format:", "f"), ("separator:", "s"), ("equal-width", "w")]
  let isNumber (argument : String) : Bool :=
    match argument.toList with
    | '-' :: c :: _ => c.isDigit || c == '.'
    | _ => false
  let front := arguments.takeWhile fun argument => !isNumber argument
  let hasOperands := (grammar.sort front).toOption.any fun options => !options.operands.isEmpty
  let isAsGiven := front.length = arguments.length || front.contains "--" || hasOperands ||
    (grammar.sort front).toOption.isNone
  let options ← grammar.take
    (if isAsGiven then arguments else front ++ "--" :: arguments.drop front.length)
  match options.operands with
  | [] => grammar.missingOperand none
  | _ :: _ :: _ :: extra :: _ => grammar.extraOperand extra
  | operands =>
    let isEndless := (operands.getLastD "").toLower = "inf"
    let read (text : String) : Shell Term := do
      if text.toLower = "nan" then
        grammar.misuse ("invalid \x27not-a-number\x27 argument: " ++ inQuotes text)
      if isEndless && text.toLower = "inf" then return ⟨⟨0, 0⟩, 0⟩
      match Term.ofText? text with
      | some term => return term
      | none => grammar.misuse ("invalid floating point argument: " ++ inQuotes text)
    let one : Term := ⟨⟨1, 0⟩, 1⟩
    let (first, step, last) ← match operands with
      | [a] => do pure (one, one, ← read a)
      | [a, b] => do pure (← read a, one, ← read b)
      | [a, b, c] => do pure (← read a, ← read b, ← read c)
      | _ => pure (one, one, one)
    if step.value.mantissa = 0 then
      grammar.misuse ("invalid Zero increment value: " ++ inQuotes ((operands[1]?).getD ""))
    let places := max (max first.value.places step.value.places) last.value.places
    let scale (value : Decimal) : Int := value.mantissa * Nat.pow 10 (places - value.places)
    let a := scale first.value
    let d := scale step.value
    let b := scale last.value
    let count : Option Nat := if isEndless then none
      else if 0 < d then some (if b < a then 0 else ((b - a) / d).toNat + 1)
      else some (if a < b then 0 else ((a - b) / -d).toNat + 1)
    let shownPlaces := max first.value.places step.value.places
    let wide (term : Term) : Nat :=
      term.width + (shownPlaces - term.value.places) - (term.value.places - shownPlaces) +
        (if term.value.places = 0 && shownPlaces ≠ 0 then 1 else 0) -
        (if term.value.places ≠ 0 && shownPlaces = 0 then 1 else 0)
    let width := if options.has "w" then max (wide first) (wide last) else 0
    let drop := Nat.pow 10 (places - shownPlaces)
    let value (i : Nat) : Decimal := ⟨(a + d * i) / drop, shownPlaces⟩
    let text ← match options.value? "f" with
      | none => pure fun i => decimalText width shownPlaces (value i)
      | some format =>
        match NumberFormat.ofText ['e', 'f', 'g', 'E', 'F', 'G', 'a', 'A'] format with
        | .ok format => pure fun i => format.write (value i)
        | .error cause => quit "seq" 1 cause
    Shell.finish 0
    writeTerms text ((options.value? "s").getD "\n") count 1000000 0

/-- Writes a line again and again, as far as the fuel goes. -/
def repeatLine (block : String) : Nat → Shell Unit
  | 0 => pure ()
  | fuel + 1 => do
    Shell.put block
    if (← get).obstacle.isNone then repeatLine block fuel

/-- Writes a line again and again. -/
def yes : Utility := fun arguments => do
  let words := if arguments.head? == some "--" then arguments.drop 1 else arguments
  let line := if words.isEmpty then "y\n" else " ".intercalate words ++ "\n"
  Shell.finish 0
  repeatLine (String.join (List.replicate (4096 / line.length + 1) line)) 100000

/-! ## Factors -/

/-- The prime factors of a number that has none below some number, as far as the fuel goes. What is
left then counts as a prime. -/
def factorsFrom : Nat → Nat → Nat → List Nat
  | 0, _, n => if n ≤ 1 then [] else [n]
  | fuel + 1, divisor, n =>
    if n < divisor * divisor then (if n ≤ 1 then [] else [n])
    else if n % divisor = 0 then divisor :: factorsFrom fuel divisor (n / divisor)
    else factorsFrom fuel (if divisor = 2 then 3 else divisor + 2) n

/-- Writes the prime factors of numbers. -/
def factor : Utility := fun arguments => do
  let grammar := Grammar.standard "factor" "h" [("exponents", "h")]
  let options ← grammar.take arguments
  Shell.finish 0
  let words ← if options.operands.isEmpty then
      (do
        let text ← Shell.takeAll
        let separated := String.ofList (text.toList.map fun c => if isSpace c then ' ' else c)
        return (separated.splitOn " ").filter (· ≠ ""))
    else pure options.operands
  for word in words do
    let digits := if word.startsWith "+" then dropFront 1 word else word
    match digits.toNat? with
    | none =>
      report "factor" (inQuotes word ++ " is not a valid positive integer")
      Shell.finish 1
    | some n =>
      let factors := factorsFrom 3000000 2 n
      let shown := if options.has "h" then
          factors.eraseDups.map fun p =>
            let count := factors.count p
            toString p ++ if count = 1 then "" else "^" ++ toString count
        else factors.map toString
      Shell.put (toString n ++ ":" ++ String.join (shown.map (" " ++ ·)) ++ "\n")

/-! ## Computing with words -/

/-- The integer that a word stands for. -/
def integerOf? (word : String) : Option Int :=
  match word.toList with
  | '-' :: digits =>
    if !digits.isEmpty && digits.all Char.isDigit then some (-(ofDigits 10 digits : Nat)) else none
  | digits =>
    if !digits.isEmpty && digits.all Char.isDigit then some (ofDigits 10 digits : Nat) else none

/-- Whether a value counts as nothing. -/
def isNull (word : String) : Bool :=
  match word.toList with
  | [] => true
  | '-' :: digits => !digits.isEmpty && digits.all (· == '0')
  | digits => digits.all (· == '0')

/-- What is found by an expression at the front of a text. -/
def matched (text pattern : String) : Except String String :=
  match Regular.ofText ⟨false, false, false, false, fun _ => none⟩ pattern with
  | .error cause => .error cause
  | .ok expression =>
    let characters := text.toList.toArray
    let hasGroup := 0 < expression.groupCount
    match expression.longest? characters (fun _ _ => true) 0 with
    | none => .ok (if hasGroup then "" else "0")
    | some found =>
      .ok (if hasGroup then found.groupText characters 1 else toString found.last)

/-- The value of an operator between two words. -/
def between (operator left right : String) : Except String String :=
  let compared (holds : Ordering → Bool) : Except String String :=
    let order := match integerOf? left, integerOf? right with
      | some a, some b => compare a b
      | _, _ => compare left right
    .ok (if holds order then "1" else "0")
  let computed (f : Int → Int → Except String Int) : Except String String :=
    match integerOf? left, integerOf? right with
    | some a, some b => (f a b).map toString
    | _, _ => .error "non-integer argument"
  match operator with
  | "|" => .ok (if isNull left then (if isNull right then "0" else right) else left)
  | "&" => .ok (if isNull left || isNull right then "0" else left)
  | "<" => compared (· == .lt)
  | "<=" => compared (· != .gt)
  | "=" | "==" => compared (· == .eq)
  | "!=" => compared (· != .eq)
  | ">=" => compared (· != .lt)
  | ">" => compared (· == .gt)
  | "+" => computed fun a b => .ok (a + b)
  | "-" => computed fun a b => .ok (a - b)
  | "*" => computed fun a b => .ok (a * b)
  | "/" => computed fun a b => if b = 0 then .error "division by zero" else .ok (a.tdiv b)
  | "%" => computed fun a b => if b = 0 then .error "division by zero" else .ok (a.tmod b)
  | _ => matched left right

/-- The operators, those that bind least first. -/
def operatorRanks : List (List String) :=
  [["|"], ["&"], ["<", "<=", "=", "==", "!=", ">=", ">"], ["+", "-"], ["*", "/", "%"], [":"]]

mutual

/-- The value of words in which operators of some ranks stand between operands. If it does not
count, mistakes in computing do not either. -/
def ranked (counts : Bool) : Nat → List (List String) → List String →
    String → Except String (String × List String)
  | 0, _, _, _ => .error "syntax error"
  | fuel + 1, [], words, last => operand counts fuel words last
  | fuel + 1, operators :: ranks, words, last => do
    let (left, rest) ← ranked counts fuel ranks words last
    chained counts fuel operators ranks left rest

/-- The value of operands with operators of one rank between them, the first of which has been
read. -/
def chained (counts : Bool) : Nat → List String → List (List String) → String → List String →
    Except String (String × List String)
  | 0, _, _, _, _ => .error "syntax error"
  | fuel + 1, operators, ranks, left, words =>
    match words with
    | [] => .ok (left, [])
    | operator :: rest =>
      if !operators.contains operator then .ok (left, words)
      else do
        let matters := counts && !(operator = "|" && !isNull left) &&
          !(operator = "&" && isNull left)
        let (right, rest) ← ranked matters fuel ranks rest operator
        if counts then
          let value ← between operator left right
          chained counts fuel operators ranks value rest
        else chained counts fuel operators ranks left rest

/-- The value of an operand. -/
def operand (counts : Bool) : Nat → List String → String → Except String (String × List String)
  | 0, _, _ => .error "syntax error"
  | _, [], last => .error ("syntax error: missing argument after " ++ inQuotes last)
  | fuel + 1, word :: rest, _ => do
    let next (words : List String) (last : String) : Except String (String × List String) :=
      operand counts fuel words last
    match word with
    | "(" =>
      let (value, rest) ← ranked counts fuel operatorRanks rest "("
      match rest with
      | ")" :: rest => return (value, rest)
      | [] => throw ("syntax error: expecting \x27)\x27 after " ++ inQuotes value)
      | other :: _ => throw ("syntax error: expecting \x27)\x27 instead of " ++ inQuotes other)
    | ")" => throw "syntax error: unexpected \x27)\x27"
    | "+" =>
      match rest with
      | word :: rest => return (word, rest)
      | [] => throw "syntax error: missing argument after \x27+\x27"
    | "length" =>
      let (text, rest) ← next rest word
      return (toString text.length, rest)
    | "match" =>
      let (text, rest) ← next rest word
      let (pattern, rest) ← next rest text
      return (← if counts then matched text pattern else .ok "0", rest)
    | "index" =>
      let (text, rest) ← next rest word
      let (wanted, rest) ← next rest text
      let place := text.toList.findIdx? wanted.toList.contains
      return (toString ((place.map (· + 1)).getD 0), rest)
    | "substr" =>
      let (text, rest) ← next rest word
      let (first, rest) ← next rest text
      let (count, rest) ← next rest first
      let part := match integerOf? first, integerOf? count with
        | some i, some n =>
          if i ≤ 0 || n ≤ 0 then "" else slice text (i.toNat - 1) (i.toNat - 1 + n.toNat)
        | _, _ => ""
      return (part, rest)
    | word => return (word, rest)

end

/-- Writes the value of words. -/
def expr : Utility := fun arguments => do
  let grammar := (Grammar.standard "expr" "" []).failingWith 2
  let words := if arguments.head? == some "--" then arguments.drop 1 else arguments
  if words.isEmpty then grammar.missingOperand none
  match ranked true (16 * words.length + 32) operatorRanks words "" with
  | .error cause => quit "expr" 2 cause
  | .ok (_, extra :: _) => quit "expr" 2 ("syntax error: unexpected argument " ++ inQuotes extra)
  | .ok (value, []) =>
    Shell.put (value ++ "\n")
    Shell.finish (if isNull value then 1 else 0)

/-! ## Units -/

/-- The letters of units, the smallest first. -/
def unitLetters : List Char := ['K', 'M', 'G', 'T', 'P', 'E', 'Z', 'Y', 'R', 'Q']

/-- A fraction rounded to an integer. -/
def roundedInteger (mode : String) (negative : Bool) (a b : Nat) : Nat :=
  let down := a / b
  let isExact := a % b = 0
  let up := if isExact then down else down + 1
  match mode with
  | "up" => if negative then down else up
  | "down" => if negative then up else down
  | "towards-zero" => down
  | "nearest" => (2 * a + b) / (2 * b)
  | _ => up

/-- A number with a unit of some base. -/
def withUnit (base : Nat) (mark mode : String) (places : Option Nat) (value : Decimal) : String :=
  let negative := decide (value.mantissa < 0)
  let a := value.mantissa.natAbs
  let b := Nat.pow 10 value.places
  let sign := if negative then "-" else ""
  let rank := ((List.range 11).reverse.find? fun n =>
    decide (Nat.pow base n * b ≤ a)).getD 0
  let fixed (rank : Nat) (places : Nat) : Nat :=
    roundedInteger mode negative (a * Nat.pow 10 places) (b * Nat.pow base rank)
  let text (rank places : Nat) : String :=
    let letter := if rank = 0 then "" else
      String.singleton ((unitLetters[rank - 1]?).getD 'K') ++ mark
    decimalText 0 places ⟨fixed rank places, places⟩ ++ letter
  match places with
  | some n => sign ++ text rank n
  | none =>
    if rank = 0 then sign ++ text 0 0
    else
      let isSmall (rank : Nat) : Bool := decide (fixed rank 1 < 100)
      if isSmall rank then sign ++ text rank 1
      else if fixed rank 0 < base then sign ++ text rank 0
      else sign ++ text (rank + 1) 1

/-- The number that a text with a unit stands for, or what is wrong with it. -/
def ofUnit (kind text : String) : Except String Decimal :=
  let negative := text.startsWith "-"
  let body := text.toList.drop (if negative then 1 else 0)
  let whole := body.takeWhile Char.isDigit
  let rest := body.drop whole.length
  let (fraction, rest) := match rest with
    | '.' :: after => (after.takeWhile Char.isDigit, after.dropWhile Char.isDigit)
    | _ => ([], rest)
  if whole.isEmpty && fraction.isEmpty then .error ("invalid number: " ++ inQuotes text)
  else
    let n : Int := ofDigits 10 (whole ++ fraction)
    let signed := if negative then -n else n
    let scaled (base : Nat) (c : Char) : Decimal :=
      let rank := ((unitLetters.idxOf? c.toUpper).map (· + 1)).getD 0
      ⟨signed * Nat.pow base rank, fraction.length⟩
    match rest with
    | [] => .ok ⟨signed, fraction.length⟩
    | [c] =>
      if !unitLetters.contains c.toUpper then .error ("invalid suffix in input: " ++ inQuotes text)
      else
        match kind with
        | "none" => .error ("rejecting suffix in input: " ++ inQuotes text ++
            " (consider using --from)")
        | "iec-i" => .error ("missing \x27i\x27 suffix in input: " ++ inQuotes text ++
            " (e.g Ki/Mi/Gi)")
        | "iec" => .ok (scaled 1024 c)
        | _ => .ok (scaled 1000 c)
    | [c, 'i'] =>
      if unitLetters.contains c.toUpper && (kind = "auto" || kind = "iec-i") then .ok (scaled 1024 c)
      else if kind = "none" then .error ("rejecting suffix in input: " ++ inQuotes text ++
          " (consider using --from)")
      else .error ("invalid suffix in input " ++ inQuotes text ++ ": \x27i\x27")
    | _ => .error ("invalid suffix in input: " ++ inQuotes text)

/-- Writes numbers with units, or without them. -/
def numfmt : Utility := fun arguments => do
  let grammar := Grammar.standard "numfmt" "d:z"
    [("from:", "from"), ("to:", "to"), ("suffix:", "suffix"), ("padding:", "padding"),
      ("round:", "round"), ("field:", "field"), ("header::", "header"), ("delimiter:", "d"),
      ("format:", "format"), ("invalid:", "invalid"), ("grouping", "grouping"),
      ("from-unit:", "fromunit"), ("to-unit:", "tounit"), ("zero-terminated", "z"),
      ("debug", "debug")]
  let options ← grammar.take arguments
  let chosen (name : String) (all : List String) : Shell String := do
    let value := (options.value? name).getD "none"
    if all.contains value then return value
    else
      report "numfmt" ("invalid argument " ++ inQuotes value ++ " for \x27--" ++ name ++
        "\x27\nValid arguments are:" ++ String.join (all.map fun one => "\n  - \x27" ++ one ++ "\x27"))
      Shell.write 2 grammar.hint
      leave 1
  let source ← chosen "from" ["none", "auto", "si", "iec", "iec-i"]
  let target ← chosen "to" ["none", "si", "iec", "iec-i"]
  let mode := (options.value? "round").getD "from-zero"
  let suffix := (options.value? "suffix").getD ""
  let fields := match Selection.ofText true ((options.value? "field").getD "1") with
    | .ok selection => selection
    | .error _ => [(1, some 1)]
  let format ← match options.value? "format" with
    | none => pure none
    | some text =>
      match NumberFormat.ofText ['f'] text with
      | .ok format => pure (some format)
      | .error cause => quit "numfmt" 1 cause
  let padding := ((options.value? "padding").bind String.toInt?).getD 0
  let unit (name : String) : Nat := ((options.value? name).bind multiple?).getD 1
  let delimiter := (options.value? "d").bind fun text => text.toList.head?
  let convert (text : String) : Except String String := do
    let value ← ofUnit source (withoutEnding suffix text)
    let scaled : Decimal := ⟨value.mantissa * unit "fromunit", value.places⟩
    let shownPlaces := format.bind fun format => format.layout.precision
    let places := shownPlaces.getD scaled.places
    let body := match target with
      | "si" => withUnit 1000 "" mode shownPlaces scaled
      | "iec" => withUnit 1024 "" mode shownPlaces scaled
      | "iec-i" => withUnit 1024 "i" mode shownPlaces scaled
      | _ =>
        let n := roundedInteger mode (decide (scaled.mantissa < 0))
          (scaled.mantissa.natAbs * Nat.pow 10 places)
          (Nat.pow 10 scaled.places * unit "tounit")
        (if scaled.mantissa < 0 then "-" else "") ++ decimalText 0 places ⟨n, places⟩
    let padded := match format with
      | some format =>
        String.ofList (format.before ++ format.layout.fill false [] (body ++ suffix).toList ++
          format.after)
      | none =>
        if 0 < padding then rightAligned padding.toNat (body ++ suffix)
        else leftAligned (-padding).toNat (body ++ suffix)
    return padded
  let ending := if options.has "z" then '\x00' else '\n'
  let header := if options.has "header" then
      (((options.value? "header").getD "1").toNat?).getD 1
    else 0
  Shell.finish 0
  let ignores := options.value? "invalid" == some "ignore"
  let convertLine (line : String) : Except String String := do
    match delimiter with
    | some c =>
      let pieces ← ((line.splitOn (String.singleton c)).zipIdx 1).mapM fun (piece, n) =>
        if fields.has n then convert piece else .ok piece
      return (String.singleton c).intercalate pieces
    | none =>
      let pieces := blankPieces line.toList
      let done ← (pieces.zipIdx 1).mapM fun ((blanks, word), n) =>
        if fields.has n then do
          let text ← convert word
          let width := blanks.length + word.length
          let isFirst := decide (n = 1)
          return (if isFirst && blanks.isEmpty then text
            else if isFirst then rightAligned width text
            else " " ++ rightAligned (width - 1) text)
        else .ok (String.ofList blanks ++ word)
      return String.join done
  let lines ← if options.operands.isEmpty then
      (do
        let text ← Shell.takeAll
        return (recordsOf ending text))
    else pure options.operands
  for (line, n) in lines.zipIdx do
    if n < header && options.operands.isEmpty then Shell.put (line ++ String.singleton ending)
    else
      match convertLine line with
      | .ok text => Shell.put (text ++ String.singleton ending)
      | .error cause =>
        if ignores then Shell.put (line ++ String.singleton ending)
        else quit "numfmt" 2 cause
where
  /-- The words of a line, each with the blanks before it. -/
  blankPieces (line : List Char) : List (List Char × String) :=
    let step (c : Char) (state : List (List Char × List Char)) : List (List Char × List Char) :=
      match state with
      | [] => if isFieldBlank c then [([c], [])] else [([], [c])]
      | (blanks, word) :: rest =>
        if isFieldBlank c then (c :: blanks, word) :: rest
        else if blanks.isEmpty then ([], c :: word) :: rest
        else ([], [c]) :: (blanks, word) :: rest
    (line.foldr step []).map fun (blanks, word) => (blanks, String.ofList word)

/-- The programs for numbers. -/
def numberTable : List (String × Program) :=
  [("seq", alone seq), ("yes", alone yes), ("factor", alone factor), ("expr", alone expr),
    ("numfmt", alone numfmt)]

end Compositor.Script.Programs
