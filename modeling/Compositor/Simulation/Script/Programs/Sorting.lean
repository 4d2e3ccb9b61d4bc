import Compositor.Simulation.Script.Formatted
import Compositor.Simulation.Script.Programs.Lines

set_option autoImplicit false

/-!
# Programs that order lines

## Main definitions

* `Script.Programs.versionOrder` — the order of texts in which numbers count as numbers.
* `Script.Programs.Measure` — what of a line is compared.
* `Script.Programs.Key` — a part of lines that is compared in some way.
* `Script.Programs.sortTable` — the programs that order lines or look at their order.
-/

namespace Compositor.Script.Programs

/-! ## Versions -/

/-- The rank of the character at the front of a text. -/
def versionRank : List Char → Int
  | [] => -1
  | c :: _ =>
    if c.isDigit then 0
    else if c.isAlpha then c.toNat
    else if c = '~' then -2
    else c.toNat + 256

/-- The order of two texts in which runs of digits are compared as numbers, as far as the fuel
goes. -/
def versionCompare : Nat → List Char → List Char → Ordering
  | 0, _, _ => .eq
  | _, [], [] => .eq
  | fuel + 1, a, b =>
    let isOther (text : List Char) : Bool := text.head?.any fun c => !c.isDigit
    if isOther a || isOther b then
      match compare (versionRank a) (versionRank b) with
      | .eq => versionCompare fuel a.tail b.tail
      | order => order
    else
      let a := a.dropWhile (· == '0')
      let b := b.dropWhile (· == '0')
      let digits := a.takeWhile Char.isDigit
      let others := b.takeWhile Char.isDigit
      match compare digits.length others.length with
      | .eq =>
        match compare (ofDigits 10 digits) (ofDigits 10 others) with
        | .eq => versionCompare fuel (a.drop digits.length) (b.drop others.length)
        | order => order
      | order => order

/-- Whether all of a text is an ending such as `.tar.gz`. -/
def isVersionEnding : Nat → List Char → Bool
  | 0, _ => false
  | _, [] => true
  | fuel + 1, '.' :: c :: rest =>
    (c.isAlpha || c == '~') && isVersionEnding fuel (rest.dropWhile fun c => c.isAlphanum || c == '~')
  | _, _ => false

/-- A text without its ending. -/
def withoutVersionEnding (text : List Char) : List Char :=
  let places := (List.range text.length).filter fun n =>
    n ≠ 0 && isVersionEnding text.length (text.drop n)
  match places.head? with
  | some n => text.take n
  | none => text

/-- The order of two names with numbers in them. -/
def versionOrder (a b : String) : Ordering :=
  let left := a.toList
  let right := b.toList
  let fuel := left.length + right.length + 2
  let dotRank (text : List Char) : Nat :=
    match text with
    | [] => 0
    | ['.'] => 1
    | ['.', '.'] => 2
    | '.' :: _ => 3
    | _ => 4
  match compare (dotRank left) (dotRank right) with
  | .eq =>
    match versionCompare fuel (withoutVersionEnding left) (withoutVersionEnding right) with
    | .eq => versionCompare fuel left right
    | order => order
  | order => order

/-! ## What is compared -/

/-- A decimal number: an integer over a power of ten. -/
structure Decimal where
  /-- The integer. -/
  mantissa : Int
  /-- The exponent of the power of ten. -/
  places : Nat

/-- The order of two decimal numbers. -/
def Decimal.order (a b : Decimal) : Ordering :=
  compare (a.mantissa * Nat.pow 10 b.places) (b.mantissa * Nat.pow 10 a.places)

/-- The decimal number at the front of a text, and what follows it. -/
def leadingDecimal (text : List Char) : Decimal × List Char :=
  let body := text.dropWhile fun c => c == ' ' || c == '\t' || c == '\n'
  let negative := body.head? == some '-'
  let body := if negative then body.drop 1 else body
  let whole := body.takeWhile Char.isDigit
  let rest := body.drop whole.length
  let (fraction, rest) := match rest with
    | '.' :: after =>
      let digits := after.takeWhile Char.isDigit
      (digits, after.drop digits.length)
    | _ => ([], rest)
  let n : Int := ofDigits 10 (whole ++ fraction)
  (⟨if negative then -n else n, fraction.length⟩, rest)

/-- What of a line is compared. -/
inductive Measure where
  /-- A text. -/
  | text (content : String)
  /-- A number. -/
  | number (value : Decimal)
  /-- A number with the rank of its unit. -/
  | scaled (rank : Int) (value : Decimal)
  /-- A real number; what is no number comes first. -/
  | real (rank : Nat) (value : Float)
  /-- A month. -/
  | month (n : Nat)
  /-- A name with numbers. -/
  | version (content : String)

/-- The order of two measures of one kind. -/
def Measure.order : Measure → Measure → Ordering
  | text a, text b => compare a b
  | number a, number b => a.order b
  | scaled r a, scaled s b => match compare r s with
    | .eq => a.order b
    | order => order
  | real r a, real s b => match compare r s with
    | .eq => if a < b then .lt else if b < a then .gt else .eq
    | order => order
  | month a, month b => compare a b
  | version a, version b => versionOrder a b
  | _, _ => .eq

/-- The number with a unit at the front of a text. -/
def scaledNumber (text : List Char) : Measure :=
  let (value, rest) := leadingDecimal text
  let units := ['K', 'M', 'G', 'T', 'P', 'E', 'Z', 'Y', 'R', 'Q']
  let rank : Int := match rest.head? with
    | some c => ((units.idxOf? (if c = 'k' then 'K' else c)).map fun n => (n : Int) + 1).getD 0
    | none => 0
  let sign : Int := if value.mantissa < 0 then -1 else if value.mantissa = 0 then 0 else 1
  .scaled (sign * rank) value

/-- The real number at the front of a text. -/
def realNumber (text : List Char) : Measure :=
  let body := text.dropWhile isSpace
  let unsigned := match body with
    | '-' :: rest | '+' :: rest => rest
    | rest => rest
  let word := String.ofList ((unsigned.take 3).map Char.toLower)
  let negative := body.head? == some '-'
  if word = "nan" then .real 1 0
  else if word = "inf" then .real (if negative then 2 else 4) 0
  else
    match (realOf body).warning with
    | some warning => if warning.endsWith "expected numeric value" then .real 0 0
        else .real 3 (realOf body).value
    | none => if body.isEmpty then .real 0 0 else .real 3 (realOf body).value

/-- The number of the month whose name stands at the front of a text. -/
def monthNumber (text : List Char) : Nat :=
  let name := String.ofList (((text.dropWhile isSpace).take 3).map Char.toUpper)
  let names := ["JAN", "FEB", "MAR", "APR", "MAY", "JUN", "JUL", "AUG", "SEP", "OCT", "NOV", "DEC"]
  ((names.idxOf? name).map (· + 1)).getD 0

/-! ## Keys -/

/-- A part of lines that is compared in some way. -/
structure Key where
  /-- The number of fields before the part. -/
  startField : Nat
  /-- The number of characters of the field before the part. -/
  startCharacter : Nat
  /-- The number of fields before the one in which the part ends, if it ends before the line. -/
  endField : Option Nat
  /-- The number of characters of that field that belong to the part; zero means all. -/
  endCharacter : Nat
  /-- Letters for the ways of comparing. -/
  ways : List Char
  /-- Whether blanks do not count at the beginning. -/
  skipsStart : Bool
  /-- Whether blanks do not count where the end is looked for. -/
  skipsEnd : Bool

/-- Whether nothing is said about the way of comparing. -/
def Key.isPlain (key : Key) : Bool :=
  key.ways.isEmpty && !key.skipsStart && !key.skipsEnd

/-- Whether a character stands between fields. -/
def isFieldBlank (c : Char) : Bool :=
  c == ' ' || c == '\t' || c == '\n'

/-- A text without so many fields at its front. -/
def dropFields (tab : Option Char) : Nat → List Char → List Char
  | 0, text => text
  | count + 1, text =>
    match tab with
    | some c => dropFields tab count ((text.dropWhile (· != c)).drop 1)
    | none =>
      dropFields tab count ((text.dropWhile isFieldBlank).dropWhile fun c => !isFieldBlank c)

/-- What is left of a text where a key begins. -/
def Key.fromStart (key : Key) (tab : Option Char) (line : List Char) : List Char :=
  let rest := dropFields tab key.startField line
  (if key.skipsStart then rest.dropWhile isFieldBlank else rest).drop key.startCharacter

/-- What is left of a text where a key ends. -/
def Key.afterEnd (key : Key) (tab : Option Char) (line : List Char) : List Char :=
  match key.endField with
  | none => []
  | some field =>
    if key.endCharacter = 0 then
      match tab with
      | some c => (dropFields tab field line).dropWhile (· != c)
      | none => dropFields tab (field + 1) line
    else
      let rest := dropFields tab field line
      (if key.skipsEnd then rest.dropWhile isFieldBlank else rest).drop key.endCharacter

/-- The part of a line for a key. -/
def Key.part (key : Key) (tab : Option Char) (line : List Char) : List Char :=
  let start := key.fromStart tab line
  start.take (start.length - (key.afterEnd tab line).length)

/-- What is compared of a part of a line. -/
def Key.measure (key : Key) (part : List Char) : Measure :=
  let has (c : Char) : Bool := key.ways.contains c
  if has 'n' then .number (leadingDecimal part).1
  else if has 'h' then scaledNumber part
  else if has 'g' then realNumber part
  else if has 'M' then .month (monthNumber part)
  else
    let kept := part.filter fun c =>
      (!has 'd' || c.isAlphanum || isFieldBlank c) && (!has 'i' || (' ' ≤ c && c ≤ '~'))
    let changed := if has 'f' then kept.map Char.toUpper else kept
    if has 'V' then .version (String.ofList changed) else .text (String.ofList changed)

/-- A line with what is compared of it. -/
structure Ranked where
  /-- The line. -/
  line : String
  /-- What is compared. -/
  measures : List Measure

/-- How lines are ordered. -/
structure Arrangement where
  /-- The character between fields, if it is not blanks. -/
  tab : Option Char
  /-- The parts that are compared. -/
  keys : List Key
  /-- Whether the whole order is turned around. -/
  reversed : Bool
  /-- Whether lines stay as they are if their parts do not differ. -/
  stable : Bool

/-- A line with what is compared of it. -/
def Arrangement.rank (arrangement : Arrangement) (line : String) : Ranked :=
  ⟨line, arrangement.keys.map fun key =>
    key.measure (key.part arrangement.tab line.toList)⟩

/-- The order of two lines as far as their parts say. -/
def Arrangement.keyOrder (arrangement : Arrangement) (a b : Ranked) : Ordering :=
  go arrangement.keys a.measures b.measures
where
  /-- The order that the first parts give that differ. -/
  go : List Key → List Measure → List Measure → Ordering
    | key :: keys, a :: left, b :: right =>
      match a.order b with
      | .eq => go keys left right
      | order => if key.ways.contains 'r' then order.swap else order
    | _, _, _ => .eq

/-- The order of two lines. -/
def Arrangement.order (arrangement : Arrangement) (a b : Ranked) : Ordering :=
  match arrangement.keyOrder a b with
  | .eq =>
    if arrangement.stable then .eq
    else
      let order := compare a.line b.line
      if arrangement.reversed then order.swap else order
  | order => order

/-- The lines of two ordered lists in one, as far as the fuel goes. -/
def mergeRanked (arrangement : Arrangement) : Nat → List Ranked → List Ranked → List Ranked
  | 0, left, right => left ++ right
  | _, [], right => right
  | _, left, [] => left
  | fuel + 1, a :: left, b :: right =>
    if arrangement.order a b == .gt then b :: mergeRanked arrangement fuel (a :: left) right
    else a :: mergeRanked arrangement fuel left (b :: right)

/-- Lines of which neighbours that do not differ are given only once. -/
def withoutRepeats (same : Ranked → Ranked → Bool) : List Ranked → List Ranked
  | [] => []
  | a :: rest => a :: go a rest
where
  /-- The lines that differ from the ones before them. -/
  go (last : Ranked) : List Ranked → List Ranked
    | [] => []
    | b :: rest => if same last b then go last rest else b :: go b rest

/-! ## Reading keys -/

/-- A number of a key, or what is wrong with it. -/
def keyNumber (place text : String) (characters : List Char) : Except String (Nat × List Char) :=
  let digits := characters.takeWhile Char.isDigit
  if digits.isEmpty then
    .error ("invalid number " ++ place ++ ": invalid count at start of " ++ inQuotes text)
  else .ok (ofDigits 10 digits, characters.drop digits.length)

/-- The letters for ways of comparing. -/
def wayLetters : List Char := ['b', 'd', 'f', 'g', 'h', 'i', 'M', 'n', 'R', 'r', 'V']

/-- One end of a key: the numbers of a field and a character, and letters. -/
def keyEnd (whole place : String) (characters : List Char) :
    Except String (Nat × Option Nat × List Char × List Char) := do
  let (field, rest) ← keyNumber place (String.ofList characters) characters
  let (character, rest) ← match rest with
    | '.' :: after => do
      let (n, rest) ← keyNumber "after '.'" (String.ofList after) after
      pure (some n, rest)
    | _ => pure (none, rest)
  if field = 0 then
    throw ("field number is zero: invalid field specification " ++ inQuotes whole)
  let ways := rest.takeWhile wayLetters.contains
  return (field, character, ways, rest.drop ways.length)

/-- The key that a text stands for, or what is wrong with it. -/
def Key.ofText (text : String) : Except String Key := do
  let (field, character, ways, rest) ← keyEnd text "at field start" text.toList
  if character == some 0 then
    throw ("character offset is zero: invalid field specification " ++ inQuotes text)
  let plain (ways : List Char) : List Char := ways.filter (· != 'b')
  match rest with
  | [] =>
    return ⟨field - 1, (character.getD 1) - 1, none, 0, plain ways, ways.contains 'b', false⟩
  | ',' :: after =>
    let (last, lastCharacter, more, rest) ← keyEnd text "after ','" after
    if !rest.isEmpty then
      throw ("stray character in field spec: invalid field specification " ++ inQuotes text)
    return ⟨field - 1, (character.getD 1) - 1, some (last - 1), lastCharacter.getD 0,
      plain (ways ++ more), ways.contains 'b', more.contains 'b'⟩
  | _ => throw ("stray character in field spec: invalid field specification " ++ inQuotes text)

/-- Ways of comparing that cannot go together. -/
def incompatible? (ways : List Char) : Option String :=
  let kinds := ['g', 'h', 'M', 'n', 'R', 'V'].filter ways.contains
  let rough := ways.contains 'd' || ways.contains 'i'
  let numeric := ['g', 'h', 'M', 'n'].filter ways.contains
  if 1 < kinds.length || (rough && !numeric.isEmpty) then
    let shown := ['d', 'f', 'g', 'h', 'i', 'M', 'n', 'R', 'V'].filter fun c =>
      ways.contains c && c != 'f'
    some (String.ofList shown)
  else none

/-- The letter for the name of a way of comparing. -/
def sortWays : List (String × Char) :=
  [("general-numeric", 'g'), ("human-numeric", 'h'), ("month", 'M'), ("numeric", 'n'),
    ("random", 'R'), ("version", 'V')]

/-- Orders lines. -/
def sort : Utility := fun arguments => do
  let grammar := (Grammar.standard "sort" "bcCdfghik:mMno:rRsS:t:T:uVz"
    [("ignore-leading-blanks", "b"), ("check::", "c"), ("dictionary-order", "d"),
      ("ignore-case", "f"), ("general-numeric-sort", "g"), ("human-numeric-sort", "h"),
      ("ignore-nonprinting", "i"), ("key:", "k"), ("merge", "m"), ("month-sort", "M"),
      ("numeric-sort", "n"), ("output:", "o"), ("reverse", "r"), ("random-sort", "R"),
      ("stable", "s"), ("buffer-size:", "S"), ("field-separator:", "t"),
      ("temporary-directory:", "T"), ("unique", "u"), ("version-sort", "V"),
      ("zero-terminated", "z"), ("sort:", "sort"), ("parallel:", "parallel"),
      ("batch-size:", "batch"), ("random-source:", "source"), ("debug", "debug"),
      ("files0-from:", "files")]).failingWith 2
  let options ← grammar.take arguments
  let named ← match options.value? "sort" with
    | none => pure []
    | some name =>
      match sortWays.lookup name with
      | some c => pure [c]
      | none => do
        report "sort" ("invalid argument " ++ inQuotes name ++ " for \x27--sort\x27\nValid arguments are:"
          ++ String.join (sortWays.map fun entry => "\n  - \x27" ++ entry.1 ++ "\x27"))
        Shell.write 2 grammar.hint
        leave 2
  let ways := named ++ ['d', 'f', 'g', 'h', 'i', 'M', 'n', 'r', 'R', 'V'].filter fun c =>
    options.has (String.singleton c)
  let skips := options.has "b"
  let mut keys : List Key := []
  for text in options.values "k" do
    match Key.ofText text with
    | .ok key => keys := keys ++ [key]
    | .error cause => quit "sort" 2 cause
  let inherited := keys.map fun key =>
    if key.isPlain then { key with ways := ways, skipsStart := skips, skipsEnd := skips } else key
  let all := if !inherited.isEmpty then inherited
    else if (ways.filter (· != 'r')).isEmpty && !skips then []
    else [⟨0, 0, none, 0, ways, skips, false⟩]
  match (ways :: inherited.map Key.ways).findSome? incompatible? with
  | some shown => quit "sort" 2 ("options \x27-" ++ shown ++ "\x27 are incompatible")
  | none => pure ()
  let tab ← match (options.value? "t").map String.toList with
    | none => pure none
    | some [] => quit "sort" 2 "empty tab"
    | some [c] => pure (some c)
    | some ['\\', '0'] => pure (some '\x00')
    | some characters => quit "sort" 2 ("multi-character tab " ++ inQuotes (String.ofList characters))
  let isUnique := options.has "u"
  let arrangement : Arrangement := ⟨tab, all, ways.contains 'r', options.has "s" || isUnique⟩
  let ending := if options.has "z" then '\x00' else '\n'
  let paths := if options.operands.isEmpty then ["-"] else options.operands
  let checks := options.has "c" || options.has "C"
  let plainOrder (a b : Ranked) : Ordering :=
    if all.isEmpty then
      let order := compare a.line b.line
      if arrangement.reversed then order.swap else order
    else arrangement.order a b
  if checks && 1 < paths.length then
    quit "sort" 2 ("extra operand " ++ inQuotes ((paths[1]?).getD "") ++ " not allowed with -" ++
      (if options.has "C" then "C" else "c"))
  let mut contents : List (List Ranked) := []
  for path in paths do
    match ← inputOf path with
    | .ok text => contents := contents ++ [(recordsOf ending text).map arrangement.rank]
    | .error cause =>
      if cause = "Is a directory" then quit "sort" 2 ("read failed: " ++ quotedName path ++ ": " ++ cause)
      else quit "sort" 2 ("cannot read: " ++ quotedName path ++ ": " ++ cause)
  let lines := contents.flatten
  if checks then
    Shell.finish 0
    let isBad (a b : Ranked) : Bool :=
      plainOrder a b == .gt || (isUnique && plainOrder a b == .eq)
    match ((lines.zip (lines.drop 1)).zipIdx 2).find? fun entry => isBad entry.1.1 entry.1.2 with
    | some ((_, line), n) =>
      let quiet := options.has "C" || (options.value? "c").any fun text =>
        text = "quiet" || text = "silent"
      if !quiet then
        report "sort" (paths.headD "-" ++ ":" ++ toString n ++ ": disorder: " ++ line.line)
      Shell.finish 1
    | none => pure ()
  else
    let ordered := if options.has "m" then
        contents.foldl (mergeRanked { arrangement with stable := false } (lines.length + 1)) []
      else lines.mergeSort fun a b => plainOrder a b != .gt
    let same (a b : Ranked) : Bool := plainOrder a b == .eq
    let final := if isUnique then withoutRepeats same ordered else ordered
    let text := ofRecords ending (final.map Ranked.line)
    Shell.finish 0
    match options.value? "o" with
    | none => Shell.put text
    | some path =>
      match ← saveTo path false text with
      | .ok () => pure ()
      | .error cause => quit "sort" 2 ("open failed: " ++ quotedName path ++ ": " ++ cause)

/-! ## Repeated lines -/

/-- A text without so many fields and characters at its front. -/
def afterFields (fields characters : Nat) (line : String) : List Char :=
  let isBlank (c : Char) : Bool := c == ' ' || c == '\t' || c == '\n'
  let skip (text : List Char) : List Char :=
    (text.dropWhile isBlank).dropWhile fun c => !isBlank c
  (Nat.repeat skip fields line.toList).drop characters

/-- Lines that stand next to each other and have the same key, in groups. -/
def groupsBy (key : String → List Char) (lines : List String) : List (List String) :=
  let (done, last) := lines.foldl
    (fun (state : List (List String) × List String) line =>
      match state.2.getLast? with
      | none => (state.1, [line])
      | some first =>
        if key first = key line then (state.1, line :: state.2)
        else (state.2.reverse :: state.1, [line]))
    ([], [])
  (if last.isEmpty then done else last.reverse :: done).reverse

/-- Writes lines that are equal to the ones before them only once. -/
def uniq : Utility := fun arguments => do
  let grammar := Grammar.standard "uniq" "cdDf:is:uw:z"
    [("count", "c"), ("repeated", "d"), ("all-repeated::", "D"), ("skip-fields:", "f"),
      ("group::", "group"), ("ignore-case", "i"), ("skip-chars:", "s"), ("unique", "u"),
      ("check-chars:", "w"), ("zero-terminated", "z")]
  let arguments := arguments.map fun argument =>
    match argument.toList with
    | '-' :: digits =>
      if !digits.isEmpty && digits.all Char.isDigit then "-f" ++ String.ofList digits else argument
    | _ => argument
  let options ← grammar.take arguments
  let number (name what : String) : Shell (Option Nat) := do
    match options.value? name with
    | none => return none
    | some text =>
      match text.toNat? with
      | some n => return some n
      | none => quit "uniq" 1 (text ++ ": invalid number of " ++ what)
  let fields ← number "f" "fields to skip"
  let skipped ← number "s" "bytes to skip"
  let width ← number "w" "bytes to compare"
  match options.operands with
  | _ :: _ :: third :: _ => grammar.extraOperand third
  | _ => pure ()
  if options.has "c" && options.has "D" then
    grammar.misuse "printing all duplicated lines and repeat counts is meaningless"
  if options.has "group" && ["c", "d", "D", "u"].any options.has then
    grammar.misuse "--group is mutually exclusive with -c/-d/-D/-u"
  let path := options.operands.headD "-"
  let ending := if options.has "z" then '\x00' else '\n'
  let text ← match ← inputOf path with
    | .ok text => pure text
    | .error cause =>
      if cause = "Is a directory" then quit "uniq" 1 ("error reading " ++ inQuotes path ++ ": " ++ cause)
      else quit "uniq" 1 (quotedName path ++ ": " ++ cause)
  let key (line : String) : List Char :=
    let rest := afterFields (fields.getD 0) (skipped.getD 0) line
    let rest := match width with
      | some n => rest.take n
      | none => rest
    if options.has "i" then rest.map Char.toLower else rest
  let groups := groupsBy key (recordsOf ending text)
  let mark := String.singleton ending
  let whole (group : List String) : String := ofRecords ending group
  let shown := if options.has "group" then
      let all := groups.map whole
      match (options.value? "group").getD "" with
      | "prepend" => String.join (all.map (mark ++ ·))
      | "append" => String.join (all.map (· ++ mark))
      | "both" => mark ++ mark.intercalate all ++ (if all.isEmpty then "" else mark)
      | _ => mark.intercalate all
    else if options.has "D" then
      let all := (groups.filter fun group =>
        1 < group.length && !options.has "u").map whole
      match (options.value? "D").getD "" with
      | "prepend" => String.join (all.map (mark ++ ·))
      | "separate" => mark.intercalate all
      | _ => String.join all
    else
      let chosen := groups.filter fun group =>
        (!options.has "d" || 1 < group.length) && (!options.has "u" || group.length = 1)
      ofRecords ending (chosen.map fun group =>
        let line := group.headD ""
        if options.has "c" then padded 7 group.length ++ " " ++ line else line)
  Shell.finish 0
  match options.operands with
  | [_, output] =>
    if output = "-" then Shell.put shown
    else
      match ← saveTo output false shown with
      | .ok () => pure ()
      | .error cause => quit "uniq" 1 (quotedName output ++ ": " ++ cause)
  | _ => Shell.put shown

/-! ## Orders that are given by pairs -/

/-- A thing that comes before others. -/
structure Forerunner where
  /-- Its name. -/
  name : String
  /-- How many pairs say that something comes before it. -/
  waits : Nat
  /-- What comes after it. -/
  followers : List String

/-- Changes the entry for a name, which is made if it is missing. -/
def changeForerunner (name : String) (update : Forerunner → Forerunner) :
    List Forerunner → List Forerunner
  | [] => [update ⟨name, 0, []⟩]
  | first :: rest =>
    if first.name = name then update first :: rest
    else if name < first.name then update ⟨name, 0, []⟩ :: first :: rest
    else first :: changeForerunner name update rest

/-- The things in an order in which each comes before those after it, and those that are left, as
far as the fuel goes. The first things are given. -/
def orderedNames : Nat → List String → List Forerunner → List String × List Forerunner
  | 0, _, left => ([], left)
  | _, [], left => ([], left)
  | fuel + 1, name :: queue, left =>
    let followers := ((left.find? fun entry => entry.name == name).map Forerunner.followers).getD []
    let others := left.filter fun entry => entry.name ≠ name
    let (left, added) := followers.foldl
      (fun (state : List Forerunner × List String) follower =>
        let waits := ((state.1.find? fun entry => entry.name == follower).map
          Forerunner.waits).getD 0
        let changed := state.1.map fun entry =>
          if entry.name = follower then { entry with waits := entry.waits - 1 } else entry
        (changed, if waits = 1 then state.2 ++ [follower] else state.2))
      (others, [])
    let (names, rest) := orderedNames fuel (queue ++ added) left
    (name :: names, rest)

/-- A loop among things that wait for each other: from one thing to one that waits for it, as far as
the fuel goes. -/
def loopFrom (left : List Forerunner) : Nat → List String → List String
  | 0, path => path
  | fuel + 1, path =>
    match path with
    | [] => []
    | name :: _ =>
      match left.find? fun entry => entry.followers.contains name with
      | none => path
      | some before =>
        if path.contains before.name then
          path.takeWhile (· != before.name) ++ [before.name]
        else loopFrom left fuel (before.name :: path)

/-- Writes all things, with a word about each loop, as far as the fuel goes. -/
def tsortRounds (path : String) : Nat → List Forerunner → Shell Unit
  | 0, _ => pure ()
  | fuel + 1, things => do
    let free := (things.filter fun entry => entry.waits = 0).map Forerunner.name
    let (names, left) := orderedNames (things.length + 1) free things
    Shell.put (ofLines names)
    match left with
    | [] => pure ()
    | first :: _ =>
      Shell.finish 1
      let loop := loopFrom left (left.length + 1) [first.name]
      report "tsort" (quotedName path ++ ": input contains a loop:")
      for name in loop do
        report "tsort" name
      match loop with
      | [] => pure ()
      | name :: rest =>
        let follower := rest.headD name
        let cut := left.map fun entry =>
          if entry.name = name then { entry with followers := entry.followers.erase follower }
          else if entry.name = follower then { entry with waits := entry.waits - 1 }
          else entry
        tsortRounds path fuel cut

/-- Writes things in an order that pairs of them ask for. -/
def tsort : Utility := fun arguments => do
  let grammar := Grammar.standard "tsort" "" []
  let options ← grammar.take arguments
  match options.operands with
  | _ :: extra :: _ => grammar.extraOperand extra
  | _ => pure ()
  let path := options.operands.headD "-"
  match ← inputOf path with
  | .error cause => quit "tsort" 1 (quotedName path ++ ": " ++ cause)
  | .ok text =>
    let words := fieldsOf text.toList
    if words.length % 2 = 1 then
      quit "tsort" 1 (quotedName path ++ ": input contains an odd number of tokens")
    Shell.finish 0
    tsortRounds path (words.length + 1) (pairUp words [])
where
  /-- The words of a text. -/
  fieldsOf (text : List Char) : List String :=
    ((String.ofList (text.map fun c => if isSpace c then ' ' else c)).splitOn " ").filter (· ≠ "")
  /-- The things that pairs of names tell of. -/
  pairUp : List String → List Forerunner → List Forerunner
    | a :: b :: rest, known =>
      if a = b then pairUp rest (changeForerunner a id known)
      else
        let known := changeForerunner b (fun entry => { entry with waits := entry.waits + 1 })
          (changeForerunner a id known)
        pairUp rest (changeForerunner a
          (fun entry => { entry with followers := b :: entry.followers }) known)
    | _, known => known

/-! ## Orders by chance -/

/-- Items in an order of chance. -/
def shuffled {α : Type} (seed : Nat) (items : List α) : List α :=
  let step (state : Nat × List (Nat × α)) (item : α) : Nat × List (Nat × α) :=
    let next := (6364136223846793005 * state.1 + 1442695040888963407) % 0x10000000000000000
    (next, (next / 0x100000000, item) :: state.2)
  let marked := (items.foldl step (seed, [])).2
  (marked.mergeSort fun a b => decide (a.1 ≤ b.1)).map Prod.snd

/-- Writes lines in an order of chance. -/
def shuf : Utility := fun arguments => do
  let grammar := Grammar.standard "shuf" "ei:n:o:rz"
    [("echo", "e"), ("input-range:", "i"), ("head-count:", "n"), ("output:", "o"),
      ("repeat", "r"), ("zero-terminated", "z"), ("random-source:", "source")]
  let options ← grammar.take arguments
  let ending := if options.has "z" then '\x00' else '\n'
  let count ← match options.value? "n" with
    | none => pure none
    | some text =>
      match text.toNat? with
      | some n => pure (some n)
      | none => quit "shuf" 1 ("invalid line count: " ++ inQuotes text)
  let items ← match options.value? "i", options.has "e" with
    | some text, _ =>
      match (text.splitOn "-").map String.toNat? with
      | [some first, some last] =>
        pure ((List.range (last + 1 - first)).map fun n => toString (first + n))
      | _ => quit "shuf" 1 ("invalid input range: " ++ inQuotes text)
    | none, true => pure options.operands
    | none, false => do
      let path := options.operands.headD "-"
      match ← inputOf path with
      | .ok text => pure (recordsOf ending text)
      | .error cause => quit "shuf" 1 (quotedName path ++ ": " ++ cause)
  let session ← get
  let mixed := shuffled (session.clock + 7919 * session.self) items
  let chosen := match count with
    | none => mixed
    | some n =>
      if options.has "r" && !mixed.isEmpty then
        (List.range n).map fun i => (mixed[(i * i + i / 3) % mixed.length]?).getD ""
      else mixed.take n
  Shell.finish 0
  let text := ofRecords ending chosen
  match options.value? "o" with
  | none => Shell.put text
  | some path =>
    match ← saveTo path false text with
    | .ok () => pure ()
    | .error cause => quit "shuf" 1 (quotedName path ++ ": " ++ cause)

/-- The programs that order lines or look at their order. -/
def sortTable : List (String × Program) :=
  [("sort", alone sort), ("uniq", alone uniq), ("tsort", alone tsort), ("shuf", alone shuf)]

end Compositor.Script.Programs
