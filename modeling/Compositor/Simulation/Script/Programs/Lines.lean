import Compositor.Simulation.Script.Matching
import Compositor.Simulation.Script.Programs.Making

set_option autoImplicit false

/-!
# Programs that show lines

## Main definitions

* `Script.Programs.shown` — a text with its unusual characters made visible.
* `Script.Programs.Extent` — how much of an input is shown.
* `Script.Programs.Tally` — the numbers of lines, words and bytes.
* `Script.Programs.lineTable` — the programs that show, number, count and split lines.
-/

namespace Compositor.Script.Programs

/-! ## Whole inputs -/

/-- Which characters are made visible. -/
structure Visibility where
  /-- Whether the ends of lines are. -/
  ends : Bool
  /-- Whether tabs are. -/
  tabs : Bool
  /-- Whether the others are that cannot be printed. -/
  others : Bool

/-- A character that cannot be printed, made visible. -/
def visible (c : Char) : List Char :=
  let n := c.toNat
  if 128 ≤ n then 'M' :: '-' :: plain (n - 128) else plain n
where
  /-- A character with a number below 128, made visible. -/
  plain (n : Nat) : List Char :=
    if n < 32 then ['^', Char.ofNat (n + 64)]
    else if n = 127 then ['^', '?']
    else [Char.ofNat n]

/-- A text with its unusual characters made visible. -/
def shown (visibility : Visibility) : List Char → List Char
  | [] => []
  | '\n' :: rest => (if visibility.ends then ['$', '\n'] else ['\n']) ++ shown visibility rest
  | '\r' :: '\n' :: rest =>
    (if visibility.ends || visibility.others then ['^', 'M'] else ['\r']) ++
      (if visibility.ends then ['$', '\n'] else ['\n']) ++ shown visibility rest
  | c :: rest =>
    let front := if c = '\t' then (if visibility.tabs then ['^', 'I'] else [c])
      else if visibility.others && (c.toNat < 32 || 127 ≤ c.toNat) then visible c
      else [c]
    front ++ shown visibility rest

/-- What numbers of lines depend on, and what happens to empty lines. -/
structure Numbering where
  /-- Whether lines get numbers. -/
  all : Bool
  /-- Whether only lines do that are not empty. -/
  nonempty : Bool
  /-- Whether only one of several empty lines stays. -/
  squeezes : Bool

/-- How far the lines of several inputs have been numbered. -/
structure Numbered where
  /-- The number of the last line. -/
  number : Nat
  /-- Whether the next character begins a line. -/
  atStart : Bool
  /-- The number of empty lines just before. -/
  gap : Nat

/-- Lines with numbers, and how far they have been numbered. -/
def numberedLines (numbering : Numbering) (visibility : Visibility) (state : Numbered)
    (text : String) : Numbered × String :=
  let step (found : Numbered × List String) (line : String) : Numbered × List String :=
    let (state, done) := found
    let isEmpty := line = "\n" && state.atStart
    if isEmpty && numbering.squeezes && 1 ≤ state.gap then (state, done)
    else
      let counts := state.atStart && (numbering.nonempty && !isEmpty ||
        numbering.all && !numbering.nonempty)
      let number := if counts then state.number + 1 else state.number
      let mark := if counts then padded 6 number ++ "\t" else ""
      let body := String.ofList (shown visibility line.toList)
      (⟨number, line.endsWith "\n", if isEmpty then state.gap + 1 else 0⟩, (mark ++ body) :: done)
  let pieces := text.splitOn "\n"
  let whole := pieces.dropLast.map (· ++ "\n")
  let last := pieces.getLastD ""
  let (state, done) := (if last = "" then whole else whole ++ [last]).foldl step (state, [])
  (state, String.join done.reverse)

/-- Whether a program would read what it writes itself if it read a file or, for a dash, what is
given to it. -/
def readsItself (session : Session) (path : String) : Bool :=
  let source : Option (Nat × Nat) :=
    if path = "-" then
      match session.stream? 0 with
      | some (.file number offset _) => some (number, offset)
      | _ => none
    else (session.inode? path).map fun found => (found.1, 0)
  match session.stream? 1, source with
  | some (.file number offset atEnd), some (found, start) =>
    let size := match (session.files.inode? number).map Inode.node with
      | some (.file content) => content.size
      | _ => 0
    number = found && start < (if atEnd then size else offset)
  | _, _ => false

/-- Writes what it reads. -/
def cat : Utility := fun arguments => do
  let grammar := Grammar.standard "cat" "AbeEnstTuv"
    [("show-all", "A"), ("number-nonblank", "b"), ("show-ends", "E"), ("number", "n"),
      ("squeeze-blank", "s"), ("show-tabs", "T"), ("show-nonprinting", "v")]
  let options ← grammar.take arguments
  let any (names : List String) : Bool := names.any options.has
  let visibility : Visibility := ⟨any ["A", "e", "E"], any ["A", "t", "T"],
    any ["A", "e", "t", "v"]⟩
  let numbering : Numbering := ⟨any ["n"], any ["b"], any ["s"]⟩
  let isPlain := options.given.all fun entry => entry.1 == "u"
  let mut state : Numbered := ⟨0, true, 0⟩
  Shell.finish 0
  let mut failed := false
  for path in if options.operands.isEmpty then ["-"] else options.operands do
    if readsItself (← get) path then
      report "cat" (quotedName path ++ ": input file is output file")
      failed := true
    else if isPlain && path = "-" then pump [] 1000000
    else
      match ← inputOf path with
      | .error cause =>
        report "cat" (quotedName path ++ ": " ++ cause)
        failed := true
      | .ok text =>
        if isPlain then Shell.put text
        else
          let (next, text) := numberedLines numbering visibility state text
          state := next
          Shell.put text
  Shell.finish (if failed then 1 else 0)

/-- The places between the parts of a text before one of its places, the last one first, as far as
the fuel goes. What separates parts is looked for from the end on and stands before or after the
place. -/
def placesBackwards (expression : Regular) (isBefore : Bool) (text : Array Char) :
    Nat → Nat → List Nat
  | 0, _ => []
  | fuel + 1, last =>
    let shown := text.extract 0 last
    let found := (List.range last).reverse.findSome? fun first =>
      expression.longest? shown (fun _ _ => true) first
    match found with
    | none => []
    | some found =>
      (if isBefore then found.first else found.last) ::
        placesBackwards expression isBefore text fuel found.first

/-- The parts of a text between places, the last one first, given the end of the last one. -/
def partsBackwards (text : Array Char) : Nat → List Nat → List String
  | last, [] => [Regular.part text 0 last]
  | last, place :: rest => Regular.part text place last :: partsBackwards text place rest

/-- Writes lines in the opposite order. -/
def tac : Utility := fun arguments => do
  let grammar := Grammar.standard "tac" "brs:"
    [("before", "b"), ("regex", "r"), ("separator:", "s")]
  let options ← grammar.take arguments
  let separator := match options.value? "s" with
    | none => "\n"
    | some "" => "\x00"
    | some text => text
  Shell.finish 0
  for path in if options.operands.isEmpty then ["-"] else options.operands do
    match ← inputOf path with
    | .error cause =>
      if cause = "Is a directory" then report "tac" (quotedName path ++ ": read error: " ++ cause)
      else report "tac" ("failed to open " ++ inQuotes path ++ " for reading: " ++ cause)
      Shell.finish 1
    | .ok text =>
      let pieces := text.splitOn separator
      if options.has "r" then
        match Regular.ofText ⟨false, false, false, false, fun _ => none⟩ separator with
        | .error message => quit "tac" 1 message
        | .ok expression =>
          let characters := text.toList.toArray
          let places := placesBackwards expression (options.has "b") characters
            (characters.size + 1) characters.size
          Shell.put (String.join (partsBackwards characters characters.size places))
      else
        let records := if options.has "b" then
            (match pieces with
            | [] => []
            | first :: rest => first :: rest.map (separator ++ ·))
          else pieces.dropLast.map (· ++ separator) ++ [pieces.getLastD ""]
        Shell.put (String.join records.reverse)

/-- Writes the characters of each line in the opposite order. -/
def rev : Utility := fun arguments => do
  Shell.finish 0
  for path in if arguments.isEmpty then ["-"] else arguments do
    match ← inputOf path with
    | .error cause =>
      report "rev" ("cannot open " ++ path ++ ": " ++ cause)
      Shell.finish 1
    | .ok text =>
      let turned (line : String) : String := String.ofList line.toList.reverse
      Shell.put (ofLinesLike text ((linesOf text).map turned))

/-! ## Beginnings and ends -/

/-- How much of an input is shown. -/
structure Extent where
  /-- Whether bytes are counted, and not lines. -/
  inBytes : Bool
  /-- Whether what is counted is left out. -/
  leavesOut : Bool
  /-- The number of lines or bytes. -/
  count : Nat

/-- The number of bytes of the first so many records of a text. -/
def recordsSize (ending : Char) : Nat → List Char → Nat
  | _, [] => 0
  | 0, _ => 0
  | count + 1, c :: rest => recordsSize ending (if c = ending then count else count + 1) rest + 1

/-- The number of records of a text. -/
def recordCount (ending : Char) (text : String) : Nat :=
  text.toList.count ending + (if text = "" || text.endsWith (String.singleton ending) then 0 else 1)

/-- The beginning of a text. -/
def Extent.front (extent : Extent) (ending : Char) (text : String) : String :=
  let total := if extent.inBytes then text.length else recordCount ending text
  let count := if extent.leavesOut then total - extent.count else extent.count
  let size := if extent.inBytes then count else recordsSize ending count text.toList
  slice text 0 size

/-- The end of a text. -/
def Extent.back (extent : Extent) (ending : Char) (text : String) : String :=
  let total := if extent.inBytes then text.length else recordCount ending text
  let count := if extent.leavesOut then extent.count - 1 else total - extent.count
  let size := if extent.inBytes then count else recordsSize ending count text.toList
  dropFront size text

/-- Arguments in which a number after a dash stands for an option with a value. -/
def withCounts (withPlus : Bool) : List String → List String
  | [] => []
  | argument :: rest =>
    let (mark, body) := match argument.toList with
      | c :: body => (c, body)
      | [] => (' ', [])
    let digits := body.takeWhile Char.isDigit
    let ending := body.drop digits.length
    let letters := ending.filter ['q', 'v', 'z', 'f'].contains
    let isCount := (mark = '-' || withPlus && mark = '+') && !digits.isEmpty &&
      ending.all ['c', 'l', 'b', 'k', 'm', 'q', 'v', 'z', 'f'].contains
    if isCount then
      let unit := (ending.filter ['c', 'l', 'b', 'k', 'm'].contains).getLast?
      let option := if unit.any (· ≠ 'l') then "-c" else "-n"
      let scale := match unit with
        | some 'b' => "b"
        | some 'k' => "k"
        | some 'm' => "M"
        | _ => ""
      let value := (if mark = '+' then "+" else "") ++ String.ofList digits ++ scale
      let others := if letters.isEmpty then [] else [String.ofList ('-' :: letters)]
      option :: value :: others ++ rest
    else argument :: rest

/-- The extent that options ask for. -/
def extentOf (program : String) (sign : Char) (options : Options) : Shell Extent := do
  let inBytes := options.last? ["n", "c"] == some "c"
  let text := (options.value? (if inBytes then "c" else "n")).getD "10"
  let (isMarked, digits) := match text.toList with
    | c :: rest =>
      if c = sign then (true, String.ofList rest)
      else if c = '-' && sign = '+' then (false, String.ofList rest)
      else (false, text)
    | [] => (false, text)
  match multiple? digits with
  | some count => return ⟨inBytes, isMarked, count⟩
  | none => quit program 1 ("invalid number of " ++ (if inBytes then "bytes" else "lines") ++ ": " ++
      inQuotes text)

/-- Takes the beginning of what is given, and as little more as can be. -/
def takeFront (extent : Extent) (ending : Char) : Shell String := do
  if extent.leavesOut then
    let text ← Shell.takeAll
    return extent.front ending text
  else
    let isEnough (text : String) : Bool :=
      if extent.inBytes then extent.count ≤ text.length
      else extent.count ≤ text.toList.count ending
    let mut taken := ""
    for _ in List.range 1000000 do
      if isEnough taken then break
      let size := if extent.inBytes then min 8192 (extent.count - taken.length) else 8192
      let more ← Shell.takeChunk 0 size
      if more = "" then break
      taken := taken ++ more
    let front := extent.front ending taken
    Shell.giveBack 0 (taken.length - front.length)
    return front

/-- Writes the beginnings of its inputs. -/
def head : Utility := fun arguments => do
  let grammar := Grammar.standard "head" "c:n:qvz"
    [("bytes:", "c"), ("lines:", "n"), ("quiet", "q"), ("silent", "q"), ("verbose", "v"),
      ("zero-terminated", "z")]
  let options ← grammar.take (withCounts false arguments)
  let extent ← extentOf "head" '-' options
  let ending := if options.has "z" then '\x00' else '\n'
  let isTitled := match options.last? ["q", "v"] with
    | some name => name == "v"
    | none => 1 < options.operands.length
  Shell.finish 0
  let mut isFirst := true
  for path in if options.operands.isEmpty then ["-"] else options.operands do
    let title := if isTitled then
        (if isFirst then "" else "\n") ++ "==> " ++
          (if path = "-" then "standard input" else path) ++ " <==\n"
      else ""
    let found ← if path = "-" then
        (do
          Shell.put title
          return Except.ok (← takeFront extent ending))
      else
        (do
          let found ← contentOf path
          if (found matches .ok _) || (← get).hasDirectory path then Shell.put title
          return found.map (extent.front ending))
    match found with
    | .ok text =>
      isFirst := false
      Shell.put text
    | .error cause =>
      if (← get).hasDirectory path then
        isFirst := false
        report "head" ("error reading " ++ inQuotes path ++ ": " ++ cause)
      else report "head" ("cannot open " ++ inQuotes path ++ " for reading: " ++ cause)
      Shell.finish 1

/-- Goes on writing what is added to a file. -/
def follow (path : String) : Nat → Nat → Shell Unit
  | 0, _ => pure ()
  | fuel + 1, known => do
    let session ← get
    let size (machine : Machine) : Nat :=
      match machine.files.locate session.here (Octets.toText path) with
      | .ok place =>
        match machine.files.node? place with
        | some (.file content) => content.size
        | _ => 0
      | .error _ => 0
    Shell.await fun machine => if size machine = known then none else some machine.clock
    let now := size (← get).toMachine
    match (← get).contents path with
    | .ok text => if known < now then Shell.put (dropFront known text)
    | .error _ => pure ()
    follow path fuel now

/-- Writes the ends of its inputs. -/
def tail : Utility := fun arguments => do
  let grammar := Grammar.standard "tail" "c:n:qvzfFs:"
    [("bytes:", "c"), ("lines:", "n"), ("quiet", "q"), ("silent", "q"), ("verbose", "v"),
      ("zero-terminated", "z"), ("follow::", "f"), ("pid:", "pid"), ("retry", "retry"),
      ("sleep-interval:", "s"), ("max-unchanged-stats:", "max")]
  let options ← grammar.take (withCounts true arguments)
  let extent ← extentOf "tail" '+' options
  let ending := if options.has "z" then '\x00' else '\n'
  let isTitled := match options.last? ["q", "v"] with
    | some name => name == "v"
    | none => 1 < options.operands.length
  Shell.finish 0
  let mut isFirst := true
  for path in if options.operands.isEmpty then ["-"] else options.operands do
    let title := if isTitled then
        (if isFirst then "" else "\n") ++ "==> " ++
          (if path = "-" then "standard input" else path) ++ " <==\n"
      else ""
    match ← inputOf path with
    | .ok text =>
      isFirst := false
      Shell.put (title ++ extent.back ending text)
    | .error cause =>
      if (← get).hasDirectory path then
        isFirst := false
        Shell.put title
        report "tail" ("error reading " ++ inQuotes path ++ ": " ++ cause)
      else report "tail" ("cannot open " ++ inQuotes path ++ " for reading: " ++ cause)
      Shell.finish 1
  if options.has "f" || options.has "F" then
    match options.operands with
    | path :: _ =>
      match (← get).contents path with
      | .ok text => follow path 1000000 text.length
      | .error _ => pure ()
    | [] => pure ()

/-! ## Numbers of lines -/

/-- Which lines of a section get numbers. -/
inductive Style where
  /-- All of them. -/
  | all
  /-- Those that are not empty. -/
  | nonempty
  /-- None of them. -/
  | nothing
  /-- Those in which an expression is found. -/
  | fitting (expression : Regular)

/-- The style that an option asks for. -/
def styleOf (grammar : Grammar) (section_ text : String) : Shell Style := do
  match text.toList with
  | ['a'] => return .all
  | ['t'] => return .nonempty
  | ['n'] => return .nothing
  | 'p' :: pattern =>
    match Regular.ofText ⟨false, false, false, false, fun _ => none⟩ (String.ofList pattern) with
    | .ok expression => return .fitting expression
    | .error cause => quit "nl" 1 cause
  | _ => grammar.misuse ("invalid " ++ section_ ++ " numbering style: " ++ inQuotes text)

/-- Writes lines with their numbers. -/
def nl : Utility := fun arguments => do
  let grammar := Grammar.standard "nl" "b:d:f:h:i:l:n:ps:v:w:"
    [("body-numbering:", "b"), ("section-delimiter:", "d"), ("footer-numbering:", "f"),
      ("header-numbering:", "h"), ("line-increment:", "i"), ("join-blank-lines:", "l"),
      ("number-format:", "n"), ("no-renumber", "p"), ("number-separator:", "s"),
      ("starting-line-number:", "v"), ("number-width:", "w")]
  let options ← grammar.take arguments
  let value (name standard : String) : String := (options.value? name).getD standard
  let body ← styleOf grammar "body" (value "b" "t")
  let header ← styleOf grammar "header" (value "h" "n")
  let footer ← styleOf grammar "footer" (value "f" "n")
  let integer (name standard : String) : Int := ((value name standard).toInt?).getD 1
  let start := integer "v" "1"
  let increment := integer "i" "1"
  let width := (integer "w" "6").toNat
  let join := (integer "l" "1").toNat
  let separator := value "s" "\t"
  let mark := match (value "d" "\\:").toList with
    | [c] => [c, ':']
    | mark => mark
  let written (n : Int) : String :=
    match value "n" "rn" with
    | "ln" => leftAligned width (toString n)
    | "rz" =>
      let digits := toString n.natAbs
      let zeros := String.ofList (List.replicate (width - digits.length - (if n < 0 then 1 else 0))
        '0')
      (if n < 0 then "-" else "") ++ zeros ++ digits
    | _ => rightAligned width (toString n)
  let text ← wholeInput "nl" options.operands
  let sign (count : Nat) : String := String.ofList (List.replicate count mark).flatten
  let blank := spaces (width + separator.length)
  let step (state : Int × Style × Nat × List String) (line : String) :
      Int × Style × Nat × List String :=
    let (number, style, gap, done) := state
    let begun := if options.has "p" then number else start
    if mark ≠ [] && line = sign 3 then (begun, header, 0, "" :: done)
    else if mark ≠ [] && line = sign 2 then (begun, body, 0, "" :: done)
    else if mark ≠ [] && line = sign 1 then (begun, footer, 0, "" :: done)
    else
      let gap := if line = "" then gap + 1 else 0
      let counts := match style with
        | .all => line ≠ "" || gap % max 1 join = 0
        | .nonempty => line ≠ ""
        | .nothing => false
        | .fitting expression => expression.isFound line.toList.toArray
      if counts then
        (number + increment, style, gap, (written number ++ separator ++ line) :: done)
      else (number, style, gap, (blank ++ line) :: done)
  let (_, _, _, lines) := (linesOf text).foldl step (start, body, 0, [])
  Shell.put (ofLines lines.reverse)

/-! ## Counting -/

/-- The numbers of lines, words and bytes, and the width of the widest line. -/
structure Tally where
  /-- The number of ends of lines. -/
  lines : Nat
  /-- The number of words. -/
  words : Nat
  /-- The number of bytes. -/
  bytes : Nat
  /-- The width of the widest line. -/
  widest : Nat

/-- How far a text has been counted. -/
structure Counting extends Tally where
  /-- Whether the next character goes on with a word. -/
  inWord : Bool
  /-- The width of the line so far. -/
  width : Nat

/-- Counts a character. -/
def Counting.step (counting : Counting) (c : Char) : Counting :=
  let next := { counting with bytes := counting.bytes + 1 }
  let ended : Counting := { next with
    widest := max next.widest next.width
    width := 0
    inWord := false }
  match c with
  | '\n' => { ended with lines := ended.lines + 1 }
  | '\r' | '\x0c' => ended
  | '\t' => { next with width := next.width / 8 * 8 + 8, inWord := false }
  | ' ' => { next with width := next.width + 1, inWord := false }
  | '\x0b' => { next with inWord := false }
  | c =>
    if ' ' < c && c ≤ '~' then
      { next with
        width := next.width + 1
        words := if next.inWord then next.words else next.words + 1
        inWord := true }
    else next

/-- The numbers for a text. -/
def Tally.ofText (text : String) : Tally :=
  let counting := text.toList.foldl Counting.step ⟨⟨0, 0, 0, 0⟩, false, 0⟩
  { counting.toTally with widest := max counting.widest counting.width }

/-- The numbers for two texts together. -/
def Tally.add (a b : Tally) : Tally :=
  ⟨a.lines + b.lines, a.words + b.words, a.bytes + b.bytes, max a.widest b.widest⟩

/-- Writes the numbers of lines, words and bytes. -/
def wc : Utility := fun arguments => do
  let grammar := Grammar.standard "wc" "clLmw"
    [("bytes", "c"), ("chars", "m"), ("lines", "l"), ("max-line-length", "L"), ("words", "w"),
      ("files0-from:", "files"), ("total:", "total")]
  let options ← grammar.take arguments
  let isStandard := !(["c", "l", "L", "m", "w"].any options.has)
  let has (name : String) : Bool := options.has name || isStandard && ["l", "w", "c"].contains name
  let listed ← match options.value? "files" with
    | none => pure none
    | some path =>
      match ← inputOf path with
      | .ok text => pure (some (recordsOf '\x00' text))
      | .error cause =>
        quit "wc" 1 ("cannot open " ++ inQuotes path ++ " for reading: " ++ cause)
  let session ← get
  let paths := listed.getD options.operands
  let numbers (tally : Tally) : List Nat :=
    (if has "l" then [tally.lines] else []) ++ (if has "w" then [tally.words] else []) ++
    (if has "m" then [tally.bytes] else []) ++ (if has "c" then [tally.bytes] else []) ++
    (if has "L" then [tally.widest] else [])
  let columns := (numbers ⟨0, 0, 0, 0⟩).length
  let sizeOf (path : String) : Option Nat × Bool :=
    if path = "-" then
      match session.stream? 0 with
      | some (.file number _ _) =>
        match (session.files.inode? number).map Inode.node with
        | some (.file content) => (some content.size, true)
        | _ => (none, true)
      | _ => (none, true)
    else
      match session.node? path with
      | some (.file content) => (some content.size, true)
      | some _ => (none, true)
      | none => (none, false)
  let sizes := (if paths.isEmpty then ["-"] else paths).map sizeOf
  let sum := sizes.foldl (fun n entry => n + entry.1.getD 0) 0
  let isOdd := sizes.any fun entry => entry.1.isNone && entry.2
  let width := if (paths.length ≤ 1 && columns = 1) || options.value? "files" == some "-" then 1
    else max (toString sum).length (if isOdd then 7 else 1)
  let mode := (options.value? "total").getD "auto"
  let row (tally : Tally) (width : Nat) (name : String) : String :=
    " ".intercalate ((numbers tally).map (padded width)) ++
      (if name = "" then "" else " " ++ name) ++ "\n"
  Shell.finish 0
  let mut total : Tally := ⟨0, 0, 0, 0⟩
  for path in if paths.isEmpty && listed.isNone then ["-"] else paths do
    match ← inputOf path with
    | .ok text =>
      let tally := Tally.ofText text
      total := total.add tally
      if mode ≠ "only" then
        Shell.put (row tally width (if paths.isEmpty then "" else path))
    | .error cause =>
      report "wc" (quotedName path ++ ": " ++ cause)
      Shell.finish 1
      if cause = "Is a directory" && mode ≠ "only" then
        Shell.put (row ⟨0, 0, 0, 0⟩ width path)
  if mode = "only" then Shell.put (row total 1 "")
  else if mode = "always" || mode = "auto" && 1 < paths.length then
    Shell.put (row total width "total")

/-! ## Splitting -/

/-- The ending of a name with a number among the digits of an alphabet, and a number of digits that
may grow. -/
def suffixOf (alphabet : List Char) (width : Nat) (grows : Bool) : Nat → Nat → Option String
  | 0, _ => none
  | fuel + 1, n =>
    let size := alphabet.length
    let capacity := Nat.pow size width
    let limit := if grows then capacity - capacity / size else capacity
    if n < limit then
      let digits := (List.range width).map fun i =>
        (alphabet[n / Nat.pow size (width - 1 - i) % size]?).getD 'a'
      some (String.ofList digits)
    else if grows then
      (suffixOf alphabet (width + 1) true fuel (n - limit)).map fun rest =>
        String.singleton (alphabet.getLastD 'z') ++ rest
    else none

/-- The pieces of lines of which each has at most so many bytes; longer lines are cut. -/
def packed (limit : Nat) (lines : List String) : List String :=
  let cut (line : String) : List String := pieces line.toList
  let (done, last) := (lines.flatMap cut).foldl
    (fun (state : List String × String) line =>
      if state.2 ≠ "" && limit < state.2.length + line.length then (state.2 :: state.1, line)
      else (state.1, state.2 ++ line))
    ([], "")
  (if last = "" then done else last :: done).reverse
where
  /-- The pieces of a line, of which each fits. -/
  pieces (characters : List Char) : List String :=
    (List.range ((characters.length + max 1 limit - 1) / max 1 limit)).map fun n =>
      String.ofList ((characters.drop (n * max 1 limit)).take (max 1 limit))

/-- The lines of a text with their ends. -/
def wholeLines (ending : Char) (text : String) : List String :=
  let mark := String.singleton ending
  let pieces := text.splitOn mark
  let whole := pieces.dropLast.map (· ++ mark)
  let last := pieces.getLastD ""
  if last = "" then whole else whole ++ [last]

/-- Groups of so many items. -/
def chunks {α : Type} (size : Nat) (items : List α) : List (List α) :=
  (List.range ((items.length + max 1 size - 1) / max 1 size)).map fun n =>
    (items.drop (n * max 1 size)).take (max 1 size)

/-- The parts of a text when it is cut into so many. -/
def equalParts (count : Nat) (kind : String) (ending : Char) (text : String) : List String :=
  let lines := wholeLines ending text
  let boundary (n : Nat) : Nat := n * (text.length / count) + min n (text.length % count)
  match kind with
  | "l" =>
    let starts := (lines.foldl
      (fun (state : List (Nat × String) × Nat) line =>
        ((state.2, line) :: state.1, state.2 + line.length))
      ([], 0)).1.reverse
    (List.range count).map fun n =>
      String.join ((starts.filter fun entry =>
        boundary n ≤ entry.1 && (entry.1 < boundary (n + 1))).map Prod.snd)
  | "r" =>
    let numbered := lines.zipIdx
    (List.range count).map fun n =>
      String.join ((numbered.filter fun entry => entry.2 % count = n).map Prod.fst)
  | _ => (List.range count).map fun n => slice text (boundary n) (boundary (n + 1))

/-- Puts the parts of an input into files. -/
def split : Utility := fun arguments => do
  let grammar := Grammar.standard "split" "0123456789C:a:b:del:n:t:ux"
    [("bytes:", "b"), ("lines:", "l"), ("line-bytes:", "C"), ("suffix-length:", "a"),
      ("additional-suffix:", "additional"), ("numeric-suffixes::", "d"), ("hex-suffixes::", "x"),
      ("number:", "n"), ("elide-empty-files", "e"), ("separator:", "t"), ("verbose", "verbose"),
      ("unbuffered", "u"), ("filter:", "filter")]
  let options ← grammar.take arguments
  let digitsGiven := String.join ((options.given.map Prod.fst).filter fun name =>
    name.length = 1 && name.toList.all Char.isDigit)
  let ending := match options.value? "t" with
    | some "\\0" => '\x00'
    | some text => text.toList.headD '\n'
    | none => '\n'
  let number (name what : String) : Shell Nat := do
    let text := (options.value? name).getD ""
    match multiple? text with
    | some n => if n = 0 then bad what text else return n
    | none => bad what text
  let content ← match ← inputOf (options.operands.headD "-") with
    | .ok text => pure text
    | .error cause =>
      let path := options.operands.headD "-"
      if cause = "Is a directory" then quit "split" 1 (quotedName path ++ ": " ++ cause)
      else quit "split" 1 ("cannot open " ++ inQuotes path ++ " for reading: " ++ cause)
  let lines := wholeLines ending content
  let mut only : Option Nat := none
  let mut parts : List String := []
  if options.has "b" then
    let size ← number "b" "bytes"
    parts := (chunks size content.toList).map String.ofList
  else if options.has "C" then
    let size ← number "C" "lines"
    parts := packed size lines
  else if options.has "n" then
    let pieces := ((options.value? "n").getD "").splitOn "/"
    let (kind, rest) := match pieces with
      | "l" :: rest => ("l", rest)
      | "r" :: rest => ("r", rest)
      | rest => ("", rest)
    let counted := (rest.getLast?.bind String.toNat?).getD 0
    if counted = 0 then
      quit "split" 1 ("invalid number of chunks: " ++ inQuotes (rest.getLastD ""))
    if rest.length = 2 then only := (rest.head?).bind String.toNat?
    parts := equalParts counted kind ending content
  else
    let count ← if options.has "l" then number "l" "lines"
      else pure (if digitsGiven = "" then 1000 else ofDigits 10 digitsGiven.toList)
    parts := (chunks count lines).map String.join
  let kept := if options.has "e" then parts.filter (· ≠ "") else parts
  let start := match options.last? ["d", "x"] with
    | some name =>
      ofDigits (if name == "x" then 16 else 10) ((options.value? name).getD "0").toList
    | none => 0
  let alphabet := match options.last? ["d", "x"] with
    | some "d" => "0123456789".toList
    | some _ => "0123456789abcdef".toList
    | none => "abcdefghijklmnopqrstuvwxyz".toList
  let width := (options.value? "a").bind String.toNat?
  let isFixed := width.isSome || start ≠ 0
  let front := (options.operands.drop 1).headD "x"
  Shell.finish 0
  match only with
  | some n => Shell.put ((parts[n - 1]?).getD "")
  | none =>
    for (part, n) in kept.zipIdx do
      match suffixOf alphabet (width.getD 2) (!isFixed) 20 (n + start) with
      | none => quit "split" 1 "output file suffixes exhausted"
      | some suffix =>
        let name := front ++ suffix ++ (options.value? "additional").getD ""
        if options.has "verbose" then Shell.put ("creating file " ++ inQuotes name ++ "\n")
        match ← saveTo name false part with
        | .ok () => pure ()
        | .error cause => quit "split" 1 (quotedName name ++ ": " ++ cause)
where
  /-- Ends the program because of a number. -/
  bad (what text : String) : Shell Nat :=
    quit "split" 1 ("invalid number of " ++ what ++ ": " ++ inQuotes text)

/-- The programs that show, number, count and split lines. -/
def lineTable : List (String × Program) :=
  [("cat", alone cat), ("tac", alone tac), ("rev", alone rev), ("head", alone head),
    ("tail", alone tail), ("nl", alone nl), ("wc", alone wc), ("split", alone split)]

end Compositor.Script.Programs
