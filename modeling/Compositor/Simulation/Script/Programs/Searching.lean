import Compositor.Simulation.Script.Matching
import Compositor.Simulation.Script.Programs.Basic
import Compositor.Simulation.Script.Programs.Names

set_option autoImplicit false

/-!
# Searching lines

A search chooses the lines in which one of some expressions is found. The lines around a chosen line
can be shown as well; a line of dashes stands between those that do not follow one another.

## Main definitions

* `Script.Programs.Wanted` — what is looked for in lines.
* `Script.Programs.Showing` — how lines are shown.
* `Script.Programs.Hits.step` — what a further line adds to what has been found.
* `Script.Programs.filesToSearch` — the files in which something is looked for.
* `Script.Programs.grep` — shows the lines in which expressions are found.
-/

namespace Compositor.Script.Programs

/-! ## What is looked for -/

/-- What is looked for in lines. -/
structure Wanted where
  /-- The expressions of which one must be found. -/
  expressions : List Regular
  /-- Whether an expression must take whole words. -/
  takesWords : Bool
  /-- Whether an expression must take whole lines. -/
  takesLines : Bool
  /-- Whether the other lines are chosen. -/
  isInverted : Bool

/-- Whether a character belongs to words. -/
def isWordCharacter (c : Char) : Bool :=
  c.isAlphanum || c = '_'

/-- Whether a part of a line may be taken. -/
def Wanted.accepts (wanted : Wanted) (text : Array Char) (start last : Nat) : Bool :=
  let before := if start = 0 then none else text[start - 1]?
  (!wanted.takesLines || (start = 0 && last = text.size)) &&
    (!wanted.takesWords ||
      (!before.any isWordCharacter && !(text[last]?).any isWordCharacter))

/-- The parts of a line that are found one after another. Of the parts that begin first the longest
counts. -/
def Wanted.partsFrom (wanted : Wanted) (line : Array Char) : Nat → Nat → List Regular.Match
  | 0, _ => []
  | fuel + 1, from_ =>
    let found := wanted.expressions.filterMap fun expression =>
      expression.find? line (wanted.accepts line) from_
    let best := found.foldl
      (fun (best : Option Regular.Match) next =>
        match best with
        | some known =>
          if next.first < known.first || (next.first = known.first && known.last < next.last) then
            some next
          else best
        | none => some next)
      none
    match best with
    | none => []
    | some part => part :: wanted.partsFrom line fuel (max part.last (part.first + 1))

/-- The parts of a line that are found and not empty. -/
def Wanted.parts (wanted : Wanted) (line : Array Char) : List Regular.Match :=
  (wanted.partsFrom line (line.size + 1) 0).filter fun part => part.first < part.last

/-- Whether a line is chosen. -/
def Wanted.chooses (wanted : Wanted) (line : Array Char) : Bool :=
  wanted.expressions.any (fun expression =>
    (expression.find? line (wanted.accepts line) 0).isSome) != wanted.isInverted

/-! ## What is shown -/

/-- How lines are shown. -/
structure Showing where
  /-- Whether only the parts are shown that are found. -/
  onlyParts : Bool
  /-- Whether the name of the file stands in front. -/
  withName : Bool
  /-- Whether a name ends with a null character. -/
  endsName : Bool
  /-- Whether the number of the line stands in front. -/
  withNumber : Bool
  /-- Whether the number of bytes before it stands in front. -/
  withOffset : Bool
  /-- Whether the text begins at a tab stop. -/
  isAligned : Bool
  /-- Whether colours are used. -/
  isColoured : Bool
  /-- How many lines are shown before a chosen one. -/
  before : Nat
  /-- How many lines are shown after a chosen one. -/
  after : Nat
  /-- The character that ends lines. -/
  ending : Char

/-- A text in a colour. -/
def inColour (code text : String) : String :=
  "\x1b[" ++ code ++ "m\x1b[K" ++ text ++ "\x1b[m\x1b[K"

/-- What stands in front of a line or a part of it. -/
def Showing.head (showing : Showing) (name : String) (width number offset : Nat)
    (isChosen : Bool) : String :=
  let mark := if isChosen then ":" else "-"
  let paint (code text : String) : String :=
    if showing.isColoured then inColour code text else text
  let count (n : Nat) : String :=
    paint "32" (if showing.isAligned then padded width n else toString n) ++ paint "36" mark
  let shownName := if !showing.withName then ""
    else paint "35" name ++ if showing.endsName then "\x00" else paint "36" mark
  let shown := shownName ++ (if showing.withNumber then count number else "") ++
    (if showing.withOffset then count offset else "")
  if shown ≠ "" && showing.isAligned then shown ++ "\t" else shown

/-- A line in which the parts that are found have a colour. -/
def painted (line : Array Char) (parts : List Regular.Match) : String :=
  let (shown, last) := parts.foldl
    (fun (shown, last) part =>
      (shown ++ Regular.part line last part.first ++
        inColour "01;31" (Regular.part line part.first part.last), part.last))
    ("", 0)
  shown ++ Regular.part line last line.size

/-- A line as it is shown, or the parts of it that are found. -/
def Showing.shown (showing : Showing) (wanted : Wanted) (name : String)
    (width number offset : Nat) (line : String) (isChosen : Bool) : String :=
  let characters := line.toList.toArray
  let ending := String.singleton showing.ending
  if showing.onlyParts then
    if !isChosen || wanted.isInverted then ""
    else
      String.join ((wanted.parts characters).map fun part =>
        let text := Regular.part characters part.first part.last
        showing.head name width number (offset + part.first) true ++
          (if showing.isColoured then inColour "01;31" text else text) ++ ending)
  else
    let isPainted := showing.isColoured && isChosen != wanted.isInverted
    showing.head name width number offset isChosen ++
      (if isPainted then painted characters (wanted.parts characters) else line) ++ ending

/-! ## What has been found -/

/-- What has been found in the lines of a text so far. -/
structure Hits where
  /-- What is shown, the last text first. -/
  shown : List String
  /-- The number of chosen lines. -/
  count : Nat
  /-- The last lines that have not been shown, the last one first, with numbers and offsets. -/
  held : List (String × Nat × Nat)
  /-- How many lines after a chosen one are still to be shown. -/
  pending : Nat
  /-- The number of the last line that has been shown. -/
  last : Nat
  /-- The number of the last line. -/
  number : Nat
  /-- The number of bytes in all lines. -/
  offset : Nat
  /-- The number of bytes up to the end of the last chosen line. -/
  chosenOffset : Nat

/-- What has been found before the first line. -/
def Hits.none : Hits := ⟨[], 0, [], 0, 0, 0, 0, 0⟩

/-- What a further line adds to what has been found. No more lines are chosen than a limit allows.
A line of dashes stands before lines that do not follow what has been shown, if anything has. -/
def Hits.step (wanted : Wanted) (showing : Showing) (limit : Option Nat) (name : String)
    (width : Nat) (hasShown : Bool) (hits : Hits) (line : String) : Hits :=
  let number := hits.number + 1
  let next := { hits with number := number, offset := hits.offset + line.length + 1 }
  let isLeft := limit.all (hits.count < ·)
  let show_ (isChosen : Bool) (entry : String × Nat × Nat) : String :=
    showing.shown wanted name width entry.2.1 entry.2.2 entry.1 isChosen
  if isLeft && wanted.chooses line.toList.toArray then
    let first := number - hits.held.length
    let hasGap := (showing.before ≠ 0 || showing.after ≠ 0) &&
      (if hits.last = 0 then hasShown else hits.last + 1 < first)
    let dashes := if showing.isColoured then inColour "36" "--" else "--"
    let gap := if hasGap then [dashes ++ "\n"] else []
    let before := hits.held.map (show_ false)
    { next with
      shown := show_ true (line, number, hits.offset) :: before ++ gap ++ hits.shown
      count := hits.count + 1
      held := []
      pending := showing.after
      last := number
      chosenOffset := next.offset }
  else if 0 < hits.pending then
    { next with
      shown := show_ false (line, number, hits.offset) :: hits.shown
      pending := hits.pending - 1
      last := number }
  else
    { next with held := ((line, number, hits.offset) :: hits.held).take showing.before }

/-- What is found in the lines of a text, up to the place from which on nothing more can be. -/
def Hits.ofLines (wanted : Wanted) (showing : Showing) (limit : Option Nat) (name : String)
    (width : Nat) (hasShown : Bool) : Hits → List String → Hits
  | hits, [] => hits
  | hits, line :: rest =>
    if hits.pending = 0 && limit.any (· ≤ hits.count) then hits
    else
      ofLines wanted showing limit name width hasShown
        (hits.step wanted showing limit name width hasShown line) rest

/-! ## Files -/

/-- Which files are searched. -/
structure Selecting where
  /-- Whether the files in directories are searched. -/
  isDeep : Bool
  /-- Whether symbolic links in directories are followed. -/
  follows : Bool
  /-- Whether directories are passed over. -/
  skips : Bool
  /-- The patterns of names of which files must fit one, if there are any. -/
  included : List Pattern
  /-- The patterns of names of files that are passed over. -/
  excluded : List Pattern
  /-- The patterns of names of directories that are passed over. -/
  closed : List Pattern

/-- The pattern that a text writes down. -/
def patternOf (text : String) : Pattern :=
  .ofMarked (text.toList.map (·, true))

/-- Whether the last name of a path, or the path itself, fits one of some patterns. -/
def namedBy (patterns : List Pattern) (path : String) : Bool :=
  patterns.any fun pattern => pattern.fits (lastName path).toList || pattern.fits path.toList

/-- The files at and below a path, as far as the fuel goes. -/
def filesBelow (session : Session) (selecting : Selecting) : Nat → Bool → String → List String
  | 0, _, _ => []
  | fuel + 1, isGiven, path =>
    let isFile := !namedBy selecting.excluded path &&
      (selecting.included.isEmpty || namedBy selecting.included path)
    let found := if isGiven || selecting.follows then session.node? path
      else session.nodeNamed? path
    match found with
    | some .directory =>
      if namedBy selecting.closed path || (isGiven && selecting.skips) then []
      else if !selecting.isDeep then [path]
      else
        let names := match session.locate path with
          | .ok place => session.files.namesIn place
          | .error _ => []
        names.flatMap fun name =>
          filesBelow session selecting fuel false (inDirectory path (Octets.ofText name))
    | some (.file _) => if isFile then [path] else []
    | some _ => if isGiven && isFile then [path] else []
    | none => if isGiven || selecting.follows then [path] else []

/-- The files in which something is looked for. -/
def filesToSearch (session : Session) (selecting : Selecting) (paths : List String) :
    List String :=
  let depth := session.files.names.length + 2
  if paths.isEmpty then
    if selecting.isDeep then
      (filesBelow session selecting depth true ".").map (dropFront 2)
    else ["-"]
  else
    paths.flatMap fun path =>
      if path = "-" then [path] else filesBelow session selecting depth true path

/-! ## The program -/

/-- Arguments in which a dash with a number stands for the lines around chosen ones. -/
def withContexts : List String → List String
  | [] => []
  | "--" :: rest => "--" :: rest
  | argument :: rest =>
    let digits := (argument.toList.drop 1).takeWhile Char.isDigit
    let number := String.ofList digits
    let others := argument.toList.drop (digits.length + 1)
    if argument.startsWith "-" && !digits.isEmpty then
      if others.isEmpty then "-C" :: number :: withContexts rest
      else "-C" :: number :: String.ofList ('-' :: others) :: withContexts rest
    else argument :: withContexts rest

/-- The options of a search. -/
def searchGrammar : Grammar :=
  { Grammar.standard "grep" "EFGPe:f:iyvwxclLm:oqsbHhnTZzaUA:B:C:Ird:D:Ru"
      [("extended-regexp", "E"), ("fixed-strings", "F"), ("basic-regexp", "G"),
        ("perl-regexp", "P"), ("regexp:", "e"), ("file:", "f"), ("ignore-case", "i"),
        ("no-ignore-case", "no-i"), ("invert-match", "v"), ("word-regexp", "w"),
        ("line-regexp", "x"), ("count", "c"), ("files-with-matches", "l"),
        ("files-without-match", "L"), ("max-count:", "m"), ("only-matching", "o"),
        ("quiet", "q"), ("silent", "q"), ("no-messages", "s"), ("byte-offset", "b"),
        ("with-filename", "H"), ("no-filename", "h"), ("line-number", "n"),
        ("initial-tab", "T"), ("null", "Z"), ("null-data", "z"), ("text", "a"),
        ("binary-files:", "binary"), ("binary", "U"), ("after-context:", "A"),
        ("before-context:", "B"), ("context:", "C"), ("recursive", "r"),
        ("dereference-recursive", "R"), ("directories:", "d"), ("devices:", "D"),
        ("include:", "include"), ("exclude:", "exclude"), ("exclude-dir:", "closed"),
        ("exclude-from:", "exclude-from"), ("label:", "label"), ("line-buffered", "line"),
        ("color::", "color"), ("colour::", "color")] with
    failure := 2
    hint := "Usage: grep [OPTION]... PATTERNS [FILE]...\nTry \x27grep --help\x27 for more " ++
      "information.\n" }

/-- The patterns that options give. -/
def patternsOf (options : Options) : Shell (List String) := do
  let mut patterns : List String := []
  for (name, value) in options.given do
    if name = "e" then patterns := patterns ++ value.splitOn "\n"
    else if name = "f" then
      match ← inputOf value with
      | .ok text => patterns := patterns ++ linesOf text
      | .error cause => quit "grep" 2 (value ++ ": " ++ cause)
  return patterns

/-- How many lines are shown around a chosen one. -/
def contextOf (options : Options) (name : String) : Shell Nat := do
  match (options.value? name).or (options.value? "C") with
  | none => return 0
  | some text =>
    match text.toNat? with
    | some n => return n
    | none => quit "grep" 2 (text ++ ": invalid context length argument")

/-- The expression that a pattern writes down. -/
def expressionOf (options : Options) (kind pattern : String) : Shell Regular := do
  let dialect : Dialect := ⟨kind = "E" || kind = "P", false, false, false, fun _ => none⟩
  let found ← if kind = "F" then pure (Regular.ofLiteral pattern)
    else if pattern.startsWith "[:" && pattern.endsWith ":]" then
      quit "grep" 2 "character class syntax is [[:space:]], not [:space:]"
    else
      match Regular.ofText dialect pattern with
      | .ok found => pure found
      | .error message => quit "grep" 2 message
  return if options.last? ["i", "y", "no-i"] matches some "i" | some "y" then found.withoutCase
    else found

/-- Whether a file is the one that is written. -/
def isOutput (session : Session) (path : String) : Bool :=
  match session.stream? 1, session.inode? path with
  | some (.file number _ _), some (found, _) => number = found
  | _, _ => false

/-- Shows the lines in which expressions are found. -/
def search (given : String) : Utility := fun arguments => do
  let options ← searchGrammar.take (withContexts arguments)
  let patterns ← patternsOf options
  let (patterns, paths) ← if options.has "e" || options.has "f" then
      pure (patterns, options.operands)
    else
      match options.operands with
      | pattern :: paths => pure (pattern.splitOn "\n", paths)
      | [] =>
        Shell.write 2 searchGrammar.hint
        leave 2
  let before ← contextOf options "B"
  let after ← contextOf options "A"
  let limit ← match options.value? "m" with
    | none => pure none
    | some text =>
      match text.toInt? with
      | some n => pure (if n < 0 then none else some n.toNat)
      | none => quit "grep" 2 "invalid max count"
  let kind := (options.last? ["E", "F", "G", "P"]).getD given
  let expressions ← patterns.mapM (expressionOf options kind)
  let wanted : Wanted := ⟨expressions, options.has "w" && !options.has "x", options.has "x",
    options.has "v"⟩
  let isDeep := options.has "r" || options.has "R" || options.value? "d" == some "recurse"
  let patternsFor (name : String) : List Pattern := (options.values name).map patternOf
  let selecting : Selecting := ⟨isDeep, options.has "R", options.value? "d" == some "skip",
    patternsFor "include", patternsFor "exclude", patternsFor "closed"⟩
  let files := filesToSearch (← get) selecting paths
  let withName := match options.last? ["h", "H"] with
    | some name => name == "H"
    | none => 1 < paths.length || (isDeep && (paths.isEmpty || files ≠ paths))
  let showing : Showing :=
    { onlyParts := options.has "o"
      withName := withName
      endsName := options.has "Z"
      withNumber := options.has "n"
      withOffset := options.has "b"
      isAligned := options.has "T"
      isColoured := options.value? "color" == some "always"
      before := before
      after := after
      ending := if options.has "z" then '\x00' else '\n' }
  let listing := options.last? ["l", "L"]
  let isBrief := options.has "q" || listing.isSome || options.has "c"
  let limit := if options.has "q" || listing.isSome then
      some (min 1 (limit.getD 1)) else limit
  let mut isAny := false
  let mut hasFailed := false
  for path in files do
    if options.has "q" && isAny then break
    if !isBrief && limit ≠ some 1 && isOutput (← get) path then
      if !options.has "s" then report "grep" (path ++ ": input file is also the output")
      hasFailed := true
    else
      let found ← if limit = some 0 then pure (.ok "") else inputOf path
      match found with
      | .error cause =>
        if !options.has "s" then report "grep" (path ++ ": " ++ cause)
        hasFailed := true
      | .ok text =>
        let name := if path = "-" then (options.value? "label").getD "(standard input)" else path
        let isBinary := !options.has "a" && !options.has "z" && text.contains '\x00' &&
          options.value? "binary" ≠ some "text"
        let isPassed := isBinary &&
          (options.has "I" || options.value? "binary" == some "without-match")
        let records := if isPassed then [] else recordsOf showing.ending text
        let width := (toString text.length).length
        let (shown, limit) := if isBrief then ({ showing with before := 0, after := 0 }, limit)
          else if isBinary then ({ showing with before := 0, after := 0 }, some 1)
          else (showing, limit)
        let hits := Hits.ofLines wanted shown limit name width isAny Hits.none records
        if path = "-" && limit.any (· ≤ hits.count) && !options.has "q" && listing.isNone then
          Shell.giveBack 0 (text.length - min text.length hits.chosenOffset)
        let nameText (mark : String) : String :=
          (if showing.isColoured then inColour "35" name else name) ++
            if showing.endsName then "\x00" else mark
        if options.has "q" then pure ()
        else if let some kind := listing then
          if (kind = "l") == (0 < hits.count) then Shell.put (nameText "\n")
        else if options.has "c" then
          let mark := if showing.isColoured then inColour "36" ":" else ":"
          Shell.put ((if showing.withName then nameText mark else "") ++
            toString hits.count ++ "\n")
        else if isBinary then
          if 0 < hits.count then report "grep" (name ++ ": binary file matches")
        else Shell.put (String.join hits.shown.reverse)
        if 0 < hits.count then isAny := true
  Shell.finish (if isAny && (options.has "q" || !hasFailed) then 0 else if hasFailed then 2 else 1)

/-- Shows the lines in which expressions are found that are written in some way. An old name tells
that it is old. -/
def grep (name kind : String) : Utility := fun arguments => do
  if name ≠ "grep" then
    Shell.write 2 (name ++ ": warning: " ++ name ++ " is obsolescent; using grep -" ++ kind ++
      "\n")
  search kind arguments

/-- The programs that search lines. -/
def searchTable : List (String × Program) :=
  [("grep", "G"), ("egrep", "E"), ("fgrep", "F")].map fun (name, kind) =>
    (name, alone (grep name kind))

end Compositor.Script.Programs
