import Compositor.Simulation.Script.Arithmetic
import Compositor.Simulation.Script.Pattern

set_option autoImplicit false

/-!
# Regular expressions

A regular expression says which parts of a text are looked for. It is written in a basic or in an
extended way: what has a meaning of its own in one of them needs a backslash in the other.

## Main definitions

* `Script.Regular` — regular expressions.
* `Script.Dialect` — how regular expressions are written.
* `Script.Regular.ofText` — the regular expression that a text writes down, or what is wrong with it.
* `Script.Regular.withoutCase` — an expression for which small and capital letters are the same.
-/

namespace Compositor.Script

/-- A regular expression. -/
inductive Regular where
  /-- Nothing. -/
  | empty
  /-- A character that lies in some ranges, or in none of them. -/
  | one (negated : Bool) (ranges : List (Char × Char))
  /-- The beginning of the text. -/
  | start
  /-- The end of the text. -/
  | finish
  /-- The beginning of a line. -/
  | lineStart
  /-- The end of a line. -/
  | lineFinish
  /-- The beginning of a word, its end, or either. -/
  | edge (begins ends : Bool)
  /-- A place that is no edge of a word. -/
  | inside
  /-- One expression after another. -/
  | andThen (first second : Regular)
  /-- One of two expressions. -/
  | either (first second : Regular)
  /-- An expression several times. -/
  | repeated (least : Nat) (most : Option Nat) (inner : Regular)
  /-- An expression whose part of the text is remembered under a number. -/
  | group (number : Nat) (inner : Regular)
  /-- The text that is remembered under a number. -/
  | same (number : Nat)

/-- How regular expressions are written. -/
structure Dialect where
  /-- Whether the extended way is meant. -/
  isExtended : Bool
  /-- Whether a repetition of nothing is a mistake. -/
  isStrict : Bool
  /-- Whether the ends of lines count as ends of the text. -/
  hasLines : Bool
  /-- Whether a backslash has its meaning in brackets. -/
  quotesInBrackets : Bool
  /-- The character that stands at the front of a text after a backslash. -/
  control : List Char → Option (Char × List Char)

namespace Regular

/-! ## Characters -/

/-- Any character. -/
def any : Regular := one true []

/-- A character. -/
def character (c : Char) : Regular := one false [(c, c)]

/-- The characters of words. -/
def wordRanges : List (Char × Char) :=
  [('_', '_'), ('0', '9'), ('A', 'Z'), ('a', 'z')]

/-- The expressions for letters after a backslash. -/
def escapes : List (Char × Regular) :=
  [('w', one false wordRanges), ('W', one true wordRanges), ('s', one false (classRanges "space")),
    ('S', one true (classRanges "space")), ('b', edge true true), ('B', inside),
    ('<', edge true false), ('>', edge false true), ('\x60', start), ('\x27', finish)]

/-- What is wrong with brackets that are not closed. -/
def openBrackets : String := "Unmatched [, [^, [:, [., or [="

/-- A character of a list in brackets. -/
def bracketCharacter (dialect : Dialect) : List Char → Except String (Char × List Char)
  | '[' :: kind :: c :: kind' :: ']' :: rest =>
    if (kind = '.' || kind = '=') && kind' = kind then .ok (c, rest)
    else .ok ('[', kind :: c :: kind' :: ']' :: rest)
  | '\\' :: rest =>
    match dialect.control rest with
    | some found => .ok found
    | none =>
      match dialect.quotesInBrackets, rest with
      | true, c :: rest => .ok (c, rest)
      | _, _ => .ok ('\\', rest)
  | c :: rest => .ok (c, rest)
  | [] => .error openBrackets

/-- The members of a list up to its closing bracket, as far as the fuel goes. The first member may
be a closing bracket. -/
def members (dialect : Dialect) : Nat → Bool → List Char → Except String (List (Char × Char) × List Char)
  | 0, _, _ => .error openBrackets
  | _, _, [] => .error openBrackets
  | fuel + 1, isFirst, c :: rest =>
    let isClass := c = '[' && rest.head? == some ':'
    if c = ']' && !isFirst then .ok ([], rest)
    else if isClass then
      let name := (rest.drop 1).takeWhile fun c => c != ':' && c != ']'
      let ranges := classRanges (String.ofList name)
      match (rest.drop 1).drop name.length with
      | ':' :: ']' :: rest =>
        if ranges.isEmpty then .error "Invalid character class name"
        else (members dialect fuel false rest).map fun (more, rest) => (ranges ++ more, rest)
      | _ => .error openBrackets
    else do
      let (first, rest) ← bracketCharacter dialect (c :: rest)
      match rest with
      | '-' :: d :: others =>
        if d = ']' then
          (members dialect fuel false rest).map fun (more, rest) => ((first, first) :: more, rest)
        else
          let (last, rest) ← bracketCharacter dialect (d :: others)
          if last < first then .error "Invalid range end"
          else (members dialect fuel false rest).map fun (more, rest) => ((first, last) :: more, rest)
      | _ => (members dialect fuel false rest).map fun (more, rest) => ((first, first) :: more, rest)

/-- A list in brackets without its opening bracket. -/
def bracketed (dialect : Dialect) (text : List Char) : Except String (Regular × List Char) :=
  match text with
  | '^' :: rest =>
    (members dialect (rest.length + 1) true rest).map fun (ranges, rest) => (one true ranges, rest)
  | _ =>
    (members dialect (text.length + 1) true text).map fun (ranges, rest) => (one false ranges, rest)

/-! ## Repetitions -/

/-- The greatest number of repetitions. -/
def repetitionLimit : Nat := 32767

/-- The bounds of a repetition after its opening brace. -/
def bounds (dialect : Dialect) (text : List Char) : Except String ((Nat × Option Nat) × List Char) :=
  let closing := if dialect.isExtended then ['\x7d'] else ['\\', '\x7d']
  let digits := text.takeWhile Char.isDigit
  let rest := text.drop digits.length
  let (most, rest) : Option Nat × List Char := match rest with
    | ',' :: rest =>
      let more := rest.takeWhile Char.isDigit
      (if more.isEmpty then none else some (ofDigits 10 more), rest.drop more.length)
    | _ => (some (ofDigits 10 digits), rest)
  let least := ofDigits 10 digits
  if rest.isEmpty then .error "Unmatched \\\x7b"
  else if !closing.isPrefixOf rest || (digits.isEmpty && text.head? ≠ some ',') then
    .error "Invalid content of \\\x7b\\\x7d"
  else if most.any (· < least) then .error "Invalid content of \\\x7b\\\x7d"
  else if repetitionLimit < max least (most.getD 0) then .error "Regular expression too big"
  else .ok ((least, most), rest.drop closing.length)

/-- A sign that a repetition may begin with. -/
inductive Sign where
  /-- A number of times that is known. -/
  | times (least : Nat) (most : Option Nat)
  /-- An opening brace. -/
  | brace
  /-- None. -/
  | none

/-- The sign at the front of a text, the character without a backslash, and what follows. -/
def sign (dialect : Dialect) (text : List Char) : Sign × Char × List Char :=
  match text with
  | '*' :: rest => (.times 0 none, '*', rest)
  | '\\' :: c :: rest => if dialect.isExtended then (.none, '\\', []) else (ofMark c, c, rest)
  | c :: rest => if dialect.isExtended then (ofMark c, c, rest) else (.none, c, [])
  | [] => (.none, '*', [])
where
  /-- The sign that a character is. -/
  ofMark : Char → Sign
    | '+' => .times 1 Option.none
    | '?' => .times 0 (some 1)
    | '\x7b' => .brace
    | _ => .none

/-! ## Reading -/

/-- Whether a text begins with a character that has a meaning of its own. -/
def beginsWith (dialect : Dialect) (c : Char) (text : List Char) : Bool :=
  (if dialect.isExtended then [c] else ['\\', c]).isPrefixOf text

/-- A text without such a character at its front. -/
def dropMark (dialect : Dialect) (text : List Char) : List Char :=
  text.drop (if dialect.isExtended then 1 else 2)

/-- What is left after the last item of a sequence. -/
def sealed (done : Regular) : Option Regular → Regular
  | some last => andThen done last
  | none => done

mutual

/-- Expressions of which one must fit. -/
def alternatives (dialect : Dialect) : Nat → Bool → List Char → Except String (Regular × List Char)
  | 0, _, _ => .error "Regular expression too big"
  | fuel + 1, nested, text => do
    let (first, rest) ← sequence dialect fuel nested true empty none text
    if beginsWith dialect '|' rest then
      let (second, rest) ← alternatives dialect fuel nested (dropMark dialect rest)
      return (either first second, rest)
    else return (first, rest)

/-- Expressions one after another, after some that have been read. The last of them may still be
repeated. -/
def sequence (dialect : Dialect) :
    Nat → Bool → Bool → Regular → Option Regular → List Char → Except String (Regular × List Char)
  | 0, _, _, _, _, _ => .error "Regular expression too big"
  | _, _, _, done, last, [] => .ok (sealed done last, [])
  | fuel + 1, nested, isFirst, done, last, c :: rest => do
    let text := c :: rest
    if beginsWith dialect '|' text then return (sealed done last, text)
    if beginsWith dialect ')' text then
      if nested then return (sealed done last, text)
      if dialect.isStrict || !dialect.isExtended then throw "Unmatched ) or \\)"
    let shown := sealed done last
    match sign dialect text, last with
    | (.times least most, _, rest), some inner =>
      sequence dialect fuel nested false done (some (repeated least most inner)) rest
    | (.times _ _, mark, rest), none =>
      if !dialect.isExtended then sequence dialect fuel nested false shown (character mark) rest
      else if dialect.isStrict then throw "Invalid preceding regular expression"
      else sequence dialect fuel nested isFirst done none rest
    | (.brace, mark, rest), some inner =>
      match bounds dialect rest with
      | .ok ((least, most), rest) =>
        sequence dialect fuel nested false done (some (repeated least most inner)) rest
      | .error cause =>
        if dialect.isExtended && !dialect.isStrict then
          sequence dialect fuel nested false shown (character mark) rest
        else throw cause
    | (.brace, mark, rest), none =>
      if dialect.isStrict then throw "Invalid preceding regular expression"
      else
        match dialect.isExtended, bounds dialect rest with
        | true, .ok (_, rest) => sequence dialect fuel nested isFirst done none rest
        | _, _ => sequence dialect fuel nested false shown (character mark) rest
    | (.none, _, _), _ =>
      if c = '^' && (dialect.isExtended || isFirst) then
        let anchor := if dialect.hasLines then lineStart else start
        sequence dialect fuel nested false (andThen shown anchor) none rest
      else
        let (item, rest) ← atom dialect fuel text
        sequence dialect fuel nested false shown (some item) rest

/-- An expression without repetitions. -/
def atom (dialect : Dialect) : Nat → List Char → Except String (Regular × List Char)
  | 0, _ => .error "Regular expression too big"
  | fuel + 1, text => do
    if beginsWith dialect '(' text then
      let (inner, rest) ← alternatives dialect fuel true (dropMark dialect text)
      if beginsWith dialect ')' rest then return (group 0 inner, dropMark dialect rest)
      else throw "Unmatched ( or \\("
    else
      match text with
      | '[' :: rest => bracketed dialect rest
      | '.' :: rest => return (any, rest)
      | '$' :: rest =>
        let isLast := rest.isEmpty || beginsWith dialect ')' rest || beginsWith dialect '|' rest
        if dialect.isExtended || isLast then
          return (if dialect.hasLines then lineFinish else finish, rest)
        else return (character '$', rest)
      | ['\\'] => throw "Trailing backslash"
      | '\\' :: c :: rest =>
        match escapes.lookup c, dialect.control (c :: rest) with
        | _, some (d, rest) => return (character d, rest)
        | some found, none => return (found, rest)
        | none, none =>
          if c.isDigit && c ≠ '0' then return (same (c.toNat - '0'.toNat), rest)
          else return (character c, rest)
      | c :: rest => return (character c, rest)
      | [] => return (empty, [])

end

/-! ## Groups -/

/-- Numbers the groups of an expression from a number on. -/
def numbered : Regular → Nat → Regular × Nat
  | group _ inner, n =>
    let (inner, after) := inner.numbered (n + 1)
    (group n inner, after)
  | andThen first second, n =>
    let (first, n) := first.numbered n
    let (second, n) := second.numbered n
    (andThen first second, n)
  | either first second, n =>
    let (first, n) := first.numbered n
    let (second, n) := second.numbered n
    (either first second, n)
  | repeated least most inner, n =>
    let (inner, n) := inner.numbered n
    (repeated least most inner, n)
  | other, n => (other, n)

/-- The greatest number of a group that an expression mentions. -/
def greatestSame : Regular → Nat
  | same n => n
  | group _ inner | repeated _ _ inner => inner.greatestSame
  | andThen first second | either first second => max first.greatestSame second.greatestSame
  | _ => 0

/-- The number of groups of an expression. -/
def groupCount : Regular → Nat
  | group _ inner => inner.groupCount + 1
  | repeated _ _ inner => inner.groupCount
  | andThen first second | either first second => first.groupCount + second.groupCount
  | _ => 0

/-- The regular expression that a text writes down, or what is wrong with it. -/
def ofText (dialect : Dialect) (text : String) : Except String Regular := do
  let (read, _) ← alternatives dialect (4 * text.length + 8) false text.toList
  let (whole, _) := read.numbered 1
  if whole.groupCount < whole.greatestSame then throw "Invalid back reference"
  return whole

/-! ## Letters -/

/-- An expression for which small and capital letters are the same. -/
def withoutCase : Regular → Regular
  | one negated ranges =>
    let letters := (List.range 26).flatMap fun n => [Char.ofNat (n + 65), Char.ofNat (n + 97)]
    let members := letters.filter (amongRanges ranges)
    one negated (ranges ++
      members.flatMap fun c => [(c.toLower, c.toLower), (c.toUpper, c.toUpper)])
  | andThen first second => andThen first.withoutCase second.withoutCase
  | either first second => either first.withoutCase second.withoutCase
  | repeated least most inner => repeated least most inner.withoutCase
  | group n inner => group n inner.withoutCase
  | other => other

/-- The expression for a text that stands for itself. -/
def ofLiteral (text : String) : Regular :=
  text.toList.foldl (fun found c => andThen found (character c)) empty

end Regular

end Compositor.Script
