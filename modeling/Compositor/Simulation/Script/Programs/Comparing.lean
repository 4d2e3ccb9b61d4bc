import Compositor.Simulation.Script.Calendar
import Compositor.Simulation.Script.Programs.Comparing.Differences
import Compositor.Simulation.Script.Programs.Lines
import Std.Data.HashMap

set_option autoImplicit false

/-!
# Programs that compare files line by line

## Main definitions

* `Script.Programs.Tolerance` — which differences do not count.
* `Script.Programs.comparePaths` — compares files, or all files in directories.
* `Script.Programs.diff`, `Script.Programs.sdiff` — tell how files differ.
-/

namespace Compositor.Script.Programs

/-! ## What counts as equal -/

/-- Which differences do not count. -/
structure Tolerance where
  /-- Those of small and capital letters. -/
  case : Bool
  /-- Those of blanks at all. -/
  allBlanks : Bool
  /-- Those of the number of blanks. -/
  blanks : Bool
  /-- Those of blanks at the end. -/
  lastBlanks : Bool
  /-- Those of empty lines. -/
  emptyLines : Bool
  /-- Those of returns at the end. -/
  returns : Bool
deriving DecidableEq

/-- A text in which each run of blanks is one space. -/
def oneSpaced : List Char → List Char
  | [] => []
  | c :: rest =>
    if isSpace c then
      (if rest.head?.any isSpace then oneSpaced rest else ' ' :: oneSpaced rest)
    else c :: oneSpaced rest

/-- What of a line counts. -/
def Tolerance.key (tolerance : Tolerance) (line : String) : String :=
  let characters := line.toList
  let ignoresEnd := tolerance.allBlanks || tolerance.blanks || tolerance.lastBlanks
  let trimmed (characters : List Char) : List Char :=
    (characters.reverse.dropWhile isSpace).reverse
  let characters := if tolerance.returns && characters.reverse.take 2 == ['\n', '\r'] then
      characters.dropLast.dropLast ++ ['\n']
    else characters
  let characters := if ignoresEnd then trimmed characters else characters
  let characters := if tolerance.allBlanks then characters.filter fun c => !isSpace c
    else if tolerance.blanks then oneSpaced characters
    else characters
  String.ofList (if tolerance.case then characters.map Char.toLower else characters)

/-- Numbers for lines, equal ones for equal lines. -/
def numberedSides (left right : List String) : Sides :=
  let step (state : Std.HashMap String Nat × List Nat) (key : String) :
      Std.HashMap String Nat × List Nat :=
    match state.1[key]? with
    | some n => (state.1, n :: state.2)
    | none => (state.1.insert key state.1.size, state.1.size :: state.2)
  let (known, one) := left.foldl step (∅, [])
  let (_, two) := right.foldl step (known, [])
  ⟨one.reverse.toArray, two.reverse.toArray⟩

/-! ## Files and directories -/

/-- How differences are told. -/
inductive Form where
  /-- In the plain form. -/
  | plain
  /-- In one column, with so many lines around them. -/
  | unified (context : Nat)
  /-- One file after another, with so many lines around them. -/
  | contextual (context : Nat)
  /-- As commands for an editor. -/
  | commands
  /-- As commands with counts. -/
  | counted
  /-- Side by side. -/
  | columns
  /-- In one file, with conditions. -/
  | conditional (name : String)
  /-- In a word. -/
  | brief

/-- What `diff` is asked for. -/
structure DiffTask where
  /-- The options. -/
  options : Options
  /-- How differences are told. -/
  form : Form
  /-- Which of them do not count. -/
  tolerance : Tolerance
  /-- The arguments that are options, as they are repeated above differences. -/
  repeated : List String
  /-- The expressions for lines of which something is told above differences. -/
  titles : List Regular
  /-- The expressions for lines that do not count. -/
  ignored : List Regular

/-- The name and time of a file above its differences. -/
def headingOf (task : DiffTask) (n : Nat) (path : String) : Shell String := do
  match ((task.options.values "L")[n]?) with
  | some label => return label
  | none =>
    let session ← get
    let time := match if path = "-" then none else session.inode? path with
      | some (_, inode) => inode.time
      | none => Machine.epoch + session.clock
    return path ++ "\t" ++ Calendar.formatted ((time / 1000000 : Nat) : Int)
      (time % 1000000 * 1000) "%Y-%m-%d %H:%M:%S.%N %z"

/-- Tells how two contents differ, and whether they do. -/
def tellDifferences (task : DiffTask) (first second heading left right : String) :
    Shell Bool := do
  let isBinary (text : String) : Bool := (text.toList.take 4096).contains '\x00'
  if left = right then
    if task.options.has "s" then
      Shell.put ("Files " ++ first ++ " and " ++ second ++ " are identical\n")
    match task.form with
    | .columns =>
      let lines := (wholeLines '\n' left).toArray
      Shell.put (sideways lines lines [])
    | .conditional _ => Shell.put left
    | _ => pure ()
    return false
  else if (isBinary left || isBinary right) && !task.options.has "a" then
    Shell.put ((if task.form matches .brief then "Files " else "Binary files ") ++ first ++ " and " ++
      second ++ " differ\n")
    return true
  else
    let leftLines := wholeLines '\n' left
    let rightLines := wholeLines '\n' right
    let sides := numberedSides (leftLines.map task.tolerance.key)
      (rightLines.map task.tolerance.key)
    let marks := marksOf sides
    let all := hunksFrom marks (sides.left.size + sides.right.size + 1) 0 0
    let lines := leftLines.toArray
    let others := rightLines.toArray
    let isEmptyHunk (hunk : Hunk) : Bool :=
      ((List.range hunk.xCount).all fun i => isBlankLine (lines.getD (hunk.x + i) "")) &&
        (List.range hunk.yCount).all fun i => isBlankLine (others.getD (hunk.y + i) "")
    let matches_ (line : String) : Bool :=
      task.ignored.any (found · (line.replace "\n" ""))
    let isIgnored (hunk : Hunk) : Bool :=
      !task.ignored.isEmpty &&
        ((List.range hunk.xCount).all fun i => matches_ (lines.getD (hunk.x + i) "")) &&
        (List.range hunk.yCount).all fun i => matches_ (others.getD (hunk.y + i) "")
    let hunks := all.filter fun hunk =>
      !(task.tolerance.emptyLines && isEmptyHunk hunk) && !isIgnored hunk
    let title (x : Nat) : String :=
      if task.titles.isEmpty then ""
      else
        match (List.range x).reverse.find? fun i =>
            task.titles.any (found · ((lines.getD i "").replace "\n" "")) with
        | some i => " " ++ shortened (lines.getD i "")
        | none => ""
    let marking : Marking := ⟨task.options.has "T", title⟩
    if hunks.isEmpty then
      match task.form with
      | .columns => Shell.put (sideways lines others [])
      | .conditional _ => Shell.put left
      | _ => pure ()
      if task.options.has "s" then
        Shell.put ("Files " ++ first ++ " and " ++ second ++ " are identical\n")
      return false
    else
      let headings (one two : String) : Shell String := do
        return one ++ " " ++ (← headingOf task 0 first) ++ "\n" ++ two ++ " " ++
          (← headingOf task 1 second) ++ "\n"
      match task.form with
      | .brief => Shell.put ("Files " ++ first ++ " and " ++ second ++ " differ\n")
      | .plain => Shell.put (heading ++ String.join (hunks.map (Hunk.plain marking lines others)))
      | .commands =>
        Shell.put (heading ++ String.join (hunks.reverse.map (Hunk.commands others)))
        if right ≠ "" && !right.endsWith "\n" then
          report "diff" (second ++ ": No newline at end of file\n")
      | .counted => Shell.put (heading ++ String.join (hunks.map (Hunk.counted others)))
      | .columns => Shell.put (heading ++ sideways lines others hunks)
      | .conditional name =>
        Shell.put (heading ++ Programs.conditional name lines others hunks)
      | .unified context =>
        Shell.put (heading ++ (← headings "---" "+++") ++
          String.join ((nearby context hunks).map (Programs.unified marking context lines others)))
      | .contextual context =>
        Shell.put (heading ++ (← headings "***" "---") ++
          String.join ((nearby context hunks).map (Programs.contextual marking context lines others)))
      return true
where
  /-- Whether a line is empty. -/
  isBlankLine (line : String) : Bool :=
    line = "\n" || (task.tolerance.allBlanks || task.tolerance.blanks) && line.toList.all isSpace
  /-- Files side by side. -/
  sideways (lines others : Array String) (hunks : List Hunk) : String :=
    let width := ((task.options.value? "W").bind String.toNat?).getD 130
    columns width (task.options.has "suppress") (task.options.has "left") lines others hunks
  /-- Whether an expression is found in a line. -/
  found (expression : Regular) (line : String) : Bool :=
    expression.isFound line.toList.toArray
  /-- The beginning of a line without blanks around it. -/
  shortened (line : String) : String :=
    let front := ((line.toList.dropWhile isSpace).filter (· != '\n')).take 40
    String.ofList (front.reverse.dropWhile isSpace).reverse

/-- Compares what stands at two paths, as far as the fuel goes, and returns a status. Above the
differences a heading may stand. -/
def comparePaths (task : DiffTask) : Nat → Bool → String → String → Shell Nat
  | 0, _, _, _ => pure 2
  | fuel + 1, isInner, first, second => do
    let session ← get
    let isDirectory (path : String) : Bool := path ≠ "-" && session.hasDirectory path
    let isThere (path : String) : Bool := path = "-" || (session.node? path).isSome
    if isDirectory first && isDirectory second then
      let namesOf (path : String) : List String :=
        match session.locate path with
        | .ok place => (session.files.namesIn place).map Octets.ofText
        | .error _ => []
      let excluded := (task.options.values "x").map fun text =>
        Pattern.ofMarked (text.toList.map fun c => (c, true))
      let left := (namesOf first).filter fun name => !excluded.any fun p => p.fits name.toList
      let right := (namesOf second).filter fun name => !excluded.any fun p => p.fits name.toList
      let names := ((left ++ right).eraseDups).mergeSort fun a b => decide (a ≤ b)
      let mut status := 0
      for name in names do
        let one := inDirectory first name
        let two := inDirectory second name
        let isNew := task.options.has "N" ||
          task.options.has "P" && !left.contains name
        if !(left.contains name && right.contains name) && !isNew then
          Shell.put ("Only in " ++ (if left.contains name then first else second) ++ ": " ++ name ++
            "\n")
          status := max status 1
        else if isDirectory one && isDirectory two && !task.options.has "r" then
          Shell.put ("Common subdirectories: " ++ one ++ " and " ++ two ++ "\n")
        else if isDirectory one != isDirectory two && isThere one && isThere two then
          let kind (path : String) : String :=
            if isDirectory path then "directory" else "regular file"
          Shell.put ("File " ++ one ++ " is a " ++ kind one ++ " while file " ++ two ++ " is a " ++
            kind two ++ "\n")
          status := max status 1
        else
          let found ← comparePaths task fuel true one two
          status := max status found
      return status
    else
      let first' := if isDirectory first then inDirectory first (lastName second) else first
      let second' := if isDirectory second then inDirectory second (lastName first) else second
      let heading := if isInner || first' ≠ first || second' ≠ second then
          "diff " ++ String.join (task.repeated.map fun word => quotedName word ++ " ") ++ first' ++ " " ++ second' ++ "\n"
        else ""
      let heading := if isInner then heading else ""
      let readOne (path : String) : Shell (Option String) := do
        if (task.options.has "N" || task.options.has "P") && !isThere path then return some ""
        match ← inputOf path with
        | .ok text => return some text
        | .error cause =>
          report "diff" (path ++ ": " ++ cause)
          return none
      let left ← readOne first'
      let right ← readOne second'
      match left, right with
      | some left, some right =>
        return if ← tellDifferences task first' second' heading left right then 1 else 0
      | _, _ => return 2

/-- Tells how files differ. -/
def diff : Utility := fun arguments => do
  let grammar := { (Grammar.standard "diff" "0123456789abBcC:dD:eEF:HiI:L:nNpPqrstTuU:wW:x:yZ"
    [("normal", "normal"), ("brief", "q"), ("report-identical-files", "s"), ("context::", "C"),
      ("unified::", "U"), ("ed", "e"), ("rcs", "n"), ("side-by-side", "y"), ("width:", "W"),
      ("label:", "L"), ("recursive", "r"), ("new-file", "N"),
      ("unidirectional-new-file", "P"), ("ignore-case", "i"),
      ("ignore-tab-expansion", "E"), ("ignore-trailing-space", "Z"),
      ("ignore-space-change", "b"), ("ignore-all-space", "w"), ("ignore-blank-lines", "B"),
      ("strip-trailing-cr", "strip"), ("text", "a"), ("minimal", "d"), ("exclude:", "x"),
      ("suppress-common-lines", "suppress"), ("color::", "color"), ("expand-tabs", "t"),
      ("initial-tab", "T"), ("show-c-function", "p"), ("ignore-matching-lines:", "I"),
      ("speed-large-files", "H"), ("left-column", "left"), ("show-function-line:", "F"),
      ("ifdef:", "D")]).failingWith 2 with
    hint := "diff: Try \x27diff --help\x27 for more information.\n" }
  let options ← grammar.take arguments
  let digits := String.join ((options.given.map Prod.fst).filter fun name =>
    name.length = 1 && name.toList.all Char.isDigit)
  let context (name : String) : Shell Nat := do
    match options.value? name with
    | none | some "" => return if digits = "" then 3 else ofDigits 10 digits.toList
    | some text =>
      match text.toNat? with
      | some n => return n
      | none => grammar.misuse ("invalid context length " ++ inQuotes text)
  let form : Form ← match options.last? ["u", "U", "c", "C", "e", "n", "y", "normal", "q", "D"] with
    | some "u" => do pure (.unified (← context "U"))
    | some "U" => do pure (.unified (← context "U"))
    | some "c" => do pure (.contextual (← context "C"))
    | some "C" => do pure (.contextual (← context "C"))
    | some "e" => pure .commands
    | some "n" => pure .counted
    | some "y" => pure .columns
    | some "D" => pure (.conditional ((options.value? "D").getD ""))
    | some "normal" => pure .plain
    | _ => if options.has "p" then do pure (.contextual (← context "C")) else pure .plain
  let tolerance : Tolerance := ⟨options.has "i", options.has "w", options.has "b", options.has "Z",
    options.has "B", options.has "strip"⟩
  let expressions (texts : List String) : Shell (List Regular) :=
    texts.mapM fun text =>
      match Regular.ofText ⟨false, false, false, false, fun _ => none⟩ text with
      | .ok expression => pure expression
      | .error cause => quit "diff" 2 (text ++ ": " ++ cause)
  let titles ← expressions
    (options.values "F" ++ if options.has "p" then ["^[[:alpha:]$_]"] else [])
  let ignored ← expressions (options.values "I")
  match options.operands with
  | [] => grammar.missingOperand (arguments.getLast?)
  | [only] =>
    grammar.misuse ("missing operand after " ++ inQuotes only)
  | [first, second] =>
    let task : DiffTask :=
      { options := options
        form := if options.has "q" then .brief else form
        tolerance := tolerance
        repeated := arguments.filter fun argument =>
          argument ≠ first && argument ≠ second
        titles := titles
        ignored := ignored }
    Shell.finish (← comparePaths task 100 false first second)
  | _ :: _ :: third :: _ => grammar.misuse ("extra operand " ++ inQuotes third)

/-- Tells side by side how files differ. -/
def sdiff : Utility := fun arguments => do
  let grammar := { (Grammar.standard "sdiff" "abBdEHiI:lo:stw:WZ"
    [("text", "a"), ("ignore-space-change", "b"), ("ignore-blank-lines", "B"), ("minimal", "d"),
      ("ignore-tab-expansion", "E"), ("speed-large-files", "H"), ("ignore-case", "i"),
      ("ignore-matching-lines:", "I"), ("left-column", "l"), ("output:", "o"),
      ("suppress-common-lines", "s"), ("expand-tabs", "t"), ("width:", "w"),
      ("ignore-all-space", "W"), ("ignore-trailing-space", "Z")]).failingWith 2 with
    hint := "sdiff: Try \x27sdiff --help\x27 for more information.\n" }
  let options ← grammar.take arguments
  let passed := options.given.flatMap fun (name, value) =>
    match name with
    | "I" => ["-I", value]
    | "l" => ["--left-column"]
    | "s" => ["--suppress-common-lines"]
    | "w" => ["-W", value]
    | "W" => ["-w"]
    | "o" => []
    | name => ["-" ++ name]
  match options.operands with
  | [] => grammar.missingOperand (arguments.getLast?)
  | [only] => grammar.misuse ("missing operand after " ++ inQuotes only)
  | [first, second] => diff (["-y"] ++ passed ++ ["--", first, second])
  | _ :: _ :: third :: _ => grammar.misuse ("extra operand " ++ inQuotes third)

end Compositor.Script.Programs
