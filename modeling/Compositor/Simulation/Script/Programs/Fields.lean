import Compositor.Simulation.Script.Programs.Lines

set_option autoImplicit false

/-!
# Programs for the parts of lines

## Main definitions

* `Script.Programs.Selection` — some numbers of fields or characters.
* `Script.Programs.joinLines` — pairs of lines that agree in a field.
* `Script.Programs.TabStops` — the columns to which tabs lead.
* `Script.Programs.fieldTable` — the programs that choose, put together and lay out parts of lines.
-/

namespace Compositor.Script.Programs

/-! ## Choosing -/

/-- Some numbers, as ranges of which the last one need not end. -/
abbrev Selection := List (Nat × Option Nat)

/-- Whether a number is selected. -/
def Selection.has (selection : Selection) (n : Nat) : Bool :=
  selection.any fun range => decide (range.1 ≤ n) && range.2.all fun last => decide (n ≤ last)

/-- Whether a range of the selection begins with a number, and does not go on with another one. -/
def Selection.begins (selection : Selection) (n : Nat) : Bool :=
  selection.any (fun range => range.1 == n) &&
    !selection.any fun range => decide (range.1 < n) && range.2.all fun last => decide (n ≤ last)

/-- The selection that a list such as `1,3-5,7-` stands for, or what is wrong with it. -/
def Selection.ofText (inFields : Bool) (text : String) : Except String Selection :=
  let separated := (String.ofList (text.toList.map fun c => if c = ' ' || c = '\t' then ',' else c))
  let numbered := if inFields then "fields are numbered from 1"
    else "byte/character positions are numbered from 1"
  (separated.splitOn ",").mapM fun piece =>
    let number (text : String) : Except String Nat :=
      match text.toNat? with
      | some 0 => .error numbered
      | some n => .ok n
      | none => .error ((if inFields then "invalid field value " else
          "invalid byte/character position ") ++ inQuotes text)
    match piece.splitOn "-" with
    | [""] => .error numbered
    | [single] => (number single).map fun n => (n, some n)
    | ["", ""] => .error "invalid range with no endpoint: -"
    | [first, ""] => (number first).map fun n => (n, none)
    | ["", last] => (number last).map fun n => (1, some n)
    | [first, last] => do
      let first ← number first
      let last ← number last
      if last < first then throw "invalid decreasing range" else return (first, some last)
    | _ => .error (if inFields then "invalid field range" else "invalid byte or character range")

/-- Writes some characters or fields of each line. -/
def cut : Utility := fun arguments => do
  let grammar := Grammar.standard "cut" "b:c:d:f:nsz"
    [("bytes:", "b"), ("characters:", "c"), ("fields:", "f"), ("delimiter:", "d"),
      ("only-delimited", "s"), ("output-delimiter:", "output"), ("complement", "complement"),
      ("zero-terminated", "z")]
  let options ← grammar.take arguments
  let lists := options.given.filter fun entry => ["b", "c", "f"].contains entry.1
  let inFields := options.has "f"
  match lists with
  | [] => grammar.misuse "you must specify a list of bytes, characters, or fields"
  | _ :: _ :: _ => grammar.misuse "only one list may be specified"
  | [(_, list)] =>
    let delimiter ← match (options.value? "d").map String.toList with
      | none => pure '\t'
      | some [c] => pure c
      | some [] => pure '\x00'
      | some _ => grammar.misuse "the delimiter must be a single character"
    if options.has "d" && !inFields then
      grammar.misuse "an input delimiter may be specified only when operating on fields"
    if options.has "s" && !inFields then
      grammar.misuse "suppressing non-delimited lines makes sense\n\tonly when operating on fields"
    match Selection.ofText inFields list with
    | .error cause => grammar.misuse cause
    | .ok selection =>
      let isComplement := options.has "complement"
      let has (n : Nat) : Bool := selection.has n != isComplement
      let ending := if options.has "z" then '\x00' else '\n'
      let joint := (options.value? "output").getD (String.singleton delimiter)
      let fieldsOf (line : String) : Option String :=
        let pieces := line.splitOn (String.singleton delimiter)
        if pieces.length ≤ 1 then (if options.has "s" then none else some line)
        else some (joint.intercalate
          (((pieces.zipIdx 1).filter fun entry => has entry.2).map Prod.fst))
      let charactersOf (line : String) : String :=
        let chosen := (line.toList.zipIdx 1).filter fun entry => has entry.2
        match options.value? "output" with
        | none => String.ofList (chosen.map Prod.fst)
        | some joint =>
          let begins (n : Nat) : Bool :=
            if isComplement then n = 1 || !has (n - 1) else selection.begins n
          String.join (chosen.zipIdx.map fun ((c, n), i) =>
            (if i ≠ 0 && begins n then joint else "") ++ String.singleton c)
      overInputs "cut" options.operands () fun _ _ text => do
        let lines := recordsOf ending text
        let chosen := lines.filterMap fun line =>
          if inFields then fieldsOf line else some (charactersOf line)
        Shell.put (ofRecords ending chosen)

/-! ## Putting together -/

/-- The characters that a list of separators stands for; one of them may be nothing. -/
def separatorsOf : List Char → Option (List String)
  | [] => some []
  | ['\\'] => none
  | '\\' :: c :: rest =>
    let shown := match c with
      | '0' => ""
      | 'b' => "\x08"
      | 'f' => "\x0c"
      | 'n' => "\n"
      | 'r' => "\r"
      | 't' => "\t"
      | 'v' => "\x0b"
      | c => String.singleton c
    (separatorsOf rest).map (shown :: ·)
  | c :: rest => (separatorsOf rest).map (String.singleton c :: ·)

/-- Items with separators between them, which are used again and again. -/
def separated (separators : List String) (items : List String) : String :=
  let count := max 1 separators.length
  String.join (items.zipIdx.map fun (item, n) =>
    (if n = 0 then "" else (separators[(n - 1) % count]?).getD "") ++ item)

/-- Puts the lines of several inputs side by side. -/
def paste : Utility := fun arguments => do
  let grammar := Grammar.standard "paste" "d:sz"
    [("delimiters:", "d"), ("serial", "s"), ("zero-terminated", "z")]
  let options ← grammar.take arguments
  let ending := if options.has "z" then '\x00' else '\n'
  let list := (options.value? "d").getD "\t"
  let separators ← match separatorsOf list.toList with
    | some [] => pure [""]
    | some found => pure found
    | none => quit "paste" 1 ("delimiter list ends with an unescaped backslash: " ++ list)
  let paths := if options.operands.isEmpty then ["-"] else options.operands
  Shell.finish 0
  let mut contents : List (List String) := []
  let dashes := (paths.filter (· == "-")).length
  let given ← if 0 < dashes then Shell.takeAll else pure ""
  let givenLines := (recordsOf ending given).zipIdx
  let mut seen := 0
  for path in paths do
    if path = "-" then
      let own := if options.has "s" then (if seen = 0 then givenLines.map Prod.fst else [])
        else (givenLines.filter fun entry => entry.2 % dashes = seen).map Prod.fst
      contents := contents ++ [own]
      seen := seen + 1
    else
      match ← contentOf path with
      | .ok text => contents := contents ++ [recordsOf ending text]
      | .error cause =>
        report "paste" (quotedName path ++ ": " ++ cause)
        Shell.finish 1
        if !options.has "s" then throw .leave
  if options.has "s" then
    Shell.put (ofRecords ending (contents.map (separated separators)))
  else
    let height := contents.foldl (fun n lines => max n lines.length) 0
    let columns := contents.map List.toArray
    Shell.put (ofRecords ending ((List.range height).map fun n =>
      separated separators (columns.map fun lines => (lines[n]?).getD "")))

/-! ## Comparing sorted inputs -/

/-- The lines of two sorted inputs, each with the numbers of the inputs in which it stands, as far
as the fuel goes. -/
def merged : Nat → List String → List String → List (String × Nat)
  | 0, _, _ => []
  | _, [], right => right.map (·, 2)
  | _, left, [] => left.map (·, 1)
  | fuel + 1, a :: left, b :: right =>
    if a < b then (a, 1) :: merged fuel left (b :: right)
    else if b < a then (b, 2) :: merged fuel (a :: left) right
    else (a, 3) :: merged fuel left right

/-- Whether texts stand in their order. -/
def isSorted : List String → Bool
  | a :: b :: rest => decide (a ≤ b) && isSorted (b :: rest)
  | _ => true

/-- Writes the lines of two sorted inputs in columns. -/
def comm : Utility := fun arguments => do
  let grammar := Grammar.standard "comm" "123z"
    [("check-order", "check"), ("nocheck-order", "nocheck"), ("output-delimiter:", "output"),
      ("total", "total"), ("zero-terminated", "z")]
  let options ← grammar.take arguments
  let ending := if options.has "z" then '\x00' else '\n'
  match options.operands with
  | [] => grammar.missingOperand none
  | [only] => grammar.missingOperand (some only)
  | [first, second] =>
    let readAll (path : String) : Shell (List String) := do
      match ← inputOf path with
      | .ok text => return recordsOf ending text
      | .error cause => quit "comm" 1 (quotedName path ++ ": " ++ cause)
    let left ← readAll first
    let right ← readAll second
    let delimiter := match options.value? "output" with
      | some "" => "\x00"
      | some text => text
      | none => "\t"
    let all := merged (left.length + right.length + 1) left right
    let one := if options.has "1" then "" else delimiter
    let two := if options.has "2" then "" else delimiter
    let shown := all.filterMap fun (line, kind) =>
      match kind with
      | 1 => if options.has "1" then none else some line
      | 2 => if options.has "2" then none else some (one ++ line)
      | _ => if options.has "3" then none else some (one ++ two ++ line)
    Shell.put (ofRecords ending shown)
    if options.has "total" then
      let count (kind : Nat) : String :=
        toString (all.filter fun entry => entry.2 == kind).length
      Shell.put (delimiter.intercalate [count 1, count 2, count 3, "total"] ++
        String.singleton ending)
    let told (n : Nat) : Shell Unit :=
      report "comm" ("file " ++ toString n ++ " is not in sorted order")
    let isChecked := !options.has "nocheck"
    let leftBad := isChecked && !isSorted left
    let rightBad := isChecked && !isSorted right
    if leftBad then told 1
    if rightBad then told 2
    if (leftBad || rightBad) && !options.has "check" then
      report "comm" "input is not in sorted order"
    Shell.finish (if leftBad || rightBad then 1 else 0)
  | _ :: _ :: third :: _ => grammar.extraOperand third

/-- The fields of a line, between separators or blanks. Blanks at the end have an empty field after
them. -/
def fieldsBetween (separator : Option Char) (line : String) : List String :=
  match separator with
  | some c => line.splitOn (String.singleton c)
  | none =>
    let isBlank (c : Char) : Bool := c == ' ' || c == '\t' || c == '\n'
    let step (c : Char) (state : List Char × List (List Char)) : List Char × List (List Char) :=
      if isBlank c then ([], if state.1.isEmpty then state.2 else state.1 :: state.2)
      else (c :: state.1, state.2)
    let (first, rest) := line.toList.foldr step ([], [])
    let found := if first.isEmpty then rest else first :: rest
    let isOpen := !found.isEmpty && line.toList.getLast?.any isBlank
    (if isOpen then found ++ [[]] else found).map String.ofList

/-- A line for joining. -/
structure Row where
  /-- The field by which it is joined. -/
  key : String
  /-- All its fields. -/
  fields : List String

/-- The pairs of rows with equal fields, and the rows without partners, with the numbers of their
inputs, as far as the fuel goes. -/
def joinLines (before : String → String → Bool) :
    Nat → List Row → List Row → List (Option Row × Option Row)
  | 0, _, _ => []
  | _, [], right => right.map fun row => (none, some row)
  | _, left, [] => left.map fun row => (some row, none)
  | fuel + 1, a :: left, b :: right =>
    if before a.key b.key then (some a, none) :: joinLines before fuel left (b :: right)
    else if before b.key a.key then (none, some b) :: joinLines before fuel (a :: left) right
    else
      let isSame (row : Row) : Bool := !before a.key row.key && !before row.key a.key
      let here := (a :: left).takeWhile isSame
      let there := (b :: right).takeWhile isSame
      (here.flatMap fun row => there.map fun other => (some row, some other)) ++
        joinLines before fuel ((a :: left).dropWhile isSame) ((b :: right).dropWhile isSame)

/-- Puts lines of two sorted inputs together that agree in a field. -/
def join : Utility := fun arguments => do
  let grammar := Grammar.standard "join" "1:2:a:e:ij:o:t:v:z"
    [("ignore-case", "i"), ("header", "header"), ("check-order", "check"),
      ("nocheck-order", "nocheck"), ("zero-terminated", "z")]
  let options ← grammar.take arguments
  let ending := if options.has "z" then '\x00' else '\n'
  let fieldNumber (name : String) : Shell Nat := do
    match (options.value? name).or (options.value? "j") with
    | none => return 1
    | some text =>
      match text.toNat? with
      | some n => if n = 0 then bad text else return n
      | none => bad text
  let firstField ← fieldNumber "1"
  let secondField ← fieldNumber "2"
  for text in options.values "a" ++ options.values "v" do
    if text ≠ "1" && text ≠ "2" then
      quit "join" 1 ("invalid field number: " ++ inQuotes text)
  let separator := match (options.value? "t").map String.toList with
    | some ['\\', '0'] => some '\x00'
    | some [c] => some c
    | some [] => some '\n'
    | _ => none
  let glue := String.singleton (separator.getD ' ')
  match options.operands with
  | [] => grammar.missingOperand none
  | [only] => grammar.missingOperand (some only)
  | [first, second] =>
    let rowsOf (path : String) (field : Nat) : Shell (List Row) := do
      match ← inputOf path with
      | .ok text => return (recordsOf ending text).map fun line =>
          let fields := fieldsBetween separator line
          ⟨(fields[field - 1]?).getD "", fields⟩
      | .error cause => quit "join" 1 (quotedName path ++ ": " ++ cause)
    let left ← rowsOf first firstField
    let right ← rowsOf second secondField
    let folded (text : String) : String :=
      if options.has "i" then String.ofList (text.toList.map Char.toUpper) else text
    let before (a b : String) : Bool := decide (folded a < folded b)
    let empty := (options.value? "e").getD ""
    let others (field : Nat) (row : Row) : List String :=
      ((row.fields.zipIdx 1).filter fun entry => entry.2 ≠ field).map Prod.fst
    let widthOf (rows : List Row) : Nat := ((rows.head?).map fun row => row.fields.length).getD 0
    let isAuto := options.value? "o" == some "auto"
    let form := if isAuto then [] else
      ((options.values "o").flatMap fun text =>
        (String.ofList (text.toList.map fun c => if c = ' ' then ',' else c)).splitOn ",")
    for spec in form do
      match spec.splitOn "." with
      | ["0"] => pure ()
      | [file, number] =>
        if (file ≠ "1" && file ≠ "2") then
          quit "join" 1 ("invalid file number in field spec: " ++ inQuotes spec)
        if (number.toNat?).isNone then
          quit "join" 1 ("invalid field number: " ++ inQuotes number)
      | _ => quit "join" 1 ("invalid file number in field spec: " ++ inQuotes spec)
    let padFields (width : Nat) (fields : List String) : List String :=
      let kept := if isAuto then fields.take width else fields
      let all := if isAuto then kept ++ List.replicate (width - kept.length) "" else kept
      all.map fun field => if field = "" then empty else field
    let written (pair : Option Row × Option Row) : String :=
      let key := ((pair.1.or pair.2).map Row.key).getD ""
      let fields := if form.isEmpty then
          let leftPart := match pair.1 with
            | some row => padFields (widthOf left - 1) (others firstField row)
            | none => if isAuto then padFields (widthOf left - 1) [] else []
          let rightPart := match pair.2 with
            | some row => padFields (widthOf right - 1) (others secondField row)
            | none => if isAuto then padFields (widthOf right - 1) [] else []
          key :: leftPart ++ rightPart
        else form.map fun spec =>
          let found := match spec.splitOn "." with
            | [file, number] =>
              let row := if file = "1" then pair.1 else pair.2
              (row.bind fun row => row.fields[(number.toNat?.getD 1) - 1]?).getD ""
            | _ => key
          if found = "" then empty else found
      glue.intercalate fields
    let wants (n : String) : Bool :=
      (options.values "a").contains n || (options.values "v").contains n
    let (head, left, right) := if options.has "header" then
        match left, right with
        | a :: left, b :: right => ([(some a, some b)], left, right)
        | _, _ => ([], left, right)
      else ([], left, right)
    let pairs := joinLines before (left.length + right.length + 1) left right
    let chosen := pairs.filter fun pair =>
      match pair with
      | (some _, some _) => !options.has "v"
      | (some _, none) => wants "1"
      | _ => wants "2"
    Shell.put (ofRecords ending ((head ++ chosen).map written))
    let unsorted (rows : List Row) : Bool := !isSorted (rows.map fun row => folded row.key)
    Shell.finish 0
    if !options.has "nocheck" then
      for (path, rows) in [(first, left), (second, right)] do
        if unsorted rows then
          let keys := (rows.map fun row => folded row.key)
          let n := ((keys.zip (keys.drop 1)).takeWhile fun pair => decide (pair.1 ≤ pair.2)).length
          let line := ((rows[n + 1]?).map fun row => glue.intercalate row.fields).getD ""
          report "join" (quotedName path ++ ":" ++ toString (n + 2) ++ ": is not sorted: " ++ line)
          Shell.finish 1
      if unsorted left || unsorted right then report "join" "input is not in sorted order"
  | _ :: _ :: third :: _ => grammar.extraOperand third
where
  /-- Ends the program because of the number of a field. -/
  bad (text : String) : Shell Nat :=
    quit "join" 1 ("invalid field number: " ++ inQuotes text)

/-! ## Tabs -/

/-- The columns to which tabs lead: some columns, and then every so many. -/
structure TabStops where
  /-- The first columns. -/
  columns : List Nat
  /-- The distance of the others, if there are others. -/
  step : Nat

/-- The column to which a tab leads. -/
def TabStops.next? (stops : TabStops) (column : Nat) : Option Nat :=
  match stops.columns.find? (column < ·) with
  | some stop => some stop
  | none => if stops.step = 0 then none else some (column / stops.step * stops.step + stops.step)

/-- The tab stops that options ask for. -/
def tabStopsOf (program : String) (options : Options) : Shell TabStops := do
  let digits := String.join ((options.given.filter fun entry =>
    entry.1.length = 1 && (entry.1.toList.all fun c => c.isDigit || c == ',')).map Prod.fst)
  let lists := options.values "t" ++ if digits = "" then [] else [digits]
  let mut columns : List Nat := []
  let mut step := 0
  for list in lists do
    for piece in (String.ofList (list.toList.map fun c => if c = ' ' then ',' else c)).splitOn "," do
      match piece.toList with
      | [] => pure ()
      | '/' :: digits => step := ofDigits 10 digits
      | '+' :: digits => step := ofDigits 10 digits
      | characters =>
        if characters.all Char.isDigit then
          let n := ofDigits 10 characters
          if n = 0 then quit program 1 "tab size cannot be 0"
          if columns.getLast?.any (n ≤ ·) then quit program 1 "tab sizes must be ascending"
          columns := columns ++ [n]
        else quit program 1 ("tab size contains invalid character(s): " ++ inQuotes piece)
  return match columns with
    | [] => ⟨[], if step = 0 then 8 else step⟩
    | [single] => if step = 0 then ⟨[], single⟩ else ⟨[single], step⟩
    | several => ⟨several, step⟩

/-- A line with spaces in place of tabs. -/
def expanded (stops : TabStops) (initialOnly : Bool) (line : List Char) : List Char :=
  let step (state : Nat × Bool × List Char) (c : Char) : Nat × Bool × List Char :=
    let (column, initial, done) := state
    if c = '\t' && (initial || !initialOnly) then
      let next := (stops.next? column).getD (column + 1)
      (next, initial, List.replicate (next - column) ' ' ++ done)
    else if c = '\x08' then (column - 1, false, c :: done)
    else (column + 1, initial && c == ' ', c :: done)
  (line.foldl step (0, true, [])).2.2.reverse

/-- Writes spaces in place of tabs. -/
def expand : Utility := fun arguments => do
  let grammar := Grammar.standard "expand" "it:0123456789,"
    [("initial", "i"), ("tabs:", "t")]
  let options ← grammar.take arguments
  let stops ← tabStopsOf "expand" options
  overInputs "expand" options.operands () fun _ _ text =>
    Shell.put (ofLinesLike text ((linesOf text).map fun line =>
      String.ofList (expanded stops (options.has "i") line.toList)))

/-- How far blanks have been turned into tabs. -/
structure Unexpanding where
  /-- The column. -/
  column : Nat
  /-- Whether blanks are still turned into tabs. -/
  active : Bool
  /-- The blanks that are waiting. -/
  waiting : List Char
  /-- Whether the character before the waiting blanks was a tab or blank. -/
  previousBlank : Bool
  /-- What has been done, backwards. -/
  done : List Char

/-- A line with tabs in place of blanks. -/
def unexpanded (stops : TabStops) (all : Bool) (line : List Char) : List Char :=
  let step (state : Unexpanding) (c : Char) : Unexpanding :=
    if !state.active then { state with done := c :: state.done }
    else if c = ' ' || c = '\t' then
      match stops.next? state.column with
      | none =>
        { state with active := false, done := c :: (state.waiting ++ state.done), waiting := [] }
      | some next =>
        if c = '\t' then
          { state with
            column := next
            done := '\t' :: (if state.waiting.head? == some '\t' then '\t' :: state.done
              else state.done)
            waiting := []
            previousBlank := true }
        else
          let column := state.column + 1
          if column = next && (state.previousBlank || !state.waiting.isEmpty) then
            { state with
              column := column
              done := '\t' :: (if state.waiting.getLast? == some '\t' then '\t' :: state.done
                else state.done)
              waiting := []
              previousBlank := true }
          else if column = next then
            { state with column := column, waiting := '\t' :: state.waiting, previousBlank := true }
          else { state with column := column, waiting := ' ' :: state.waiting, previousBlank := true }
    else
      let waiting := match state.waiting with
        | ['\t'] => [' ']
        | waiting => waiting.map fun d => if d = '\t' && waiting.length = 1 then ' ' else d
      { state with
        column := if c = '\x08' then state.column - 1 else state.column + 1
        active := all
        waiting := []
        previousBlank := false
        done := c :: (waiting ++ state.done) }
  let last := line.foldl step ⟨0, true, [], false, []⟩
  (last.waiting ++ last.done).reverse

/-- Writes tabs in place of blanks. -/
def unexpand : Utility := fun arguments => do
  let grammar := Grammar.standard "unexpand" "at:0123456789,"
    [("all", "a"), ("tabs:", "t"), ("first-only", "first")]
  let options ← grammar.take arguments
  let stops ← tabStopsOf "unexpand" options
  let all := (options.has "a" || options.has "t") && !options.has "first"
  overInputs "unexpand" options.operands () fun _ _ text =>
    Shell.put (ofLinesLike text ((linesOf text).map fun line =>
      String.ofList (unexpanded stops all line.toList)))

/-! ## Widths -/

/-- The column after a character. -/
def columnAfter (inBytes : Bool) (column : Nat) (c : Char) : Nat :=
  if inBytes then column + 1
  else
    match c with
    | '\x08' => column - 1
    | '\r' => 0
    | '\t' => column / 8 * 8 + 8
    | _ => column + 1

/-- A line cut into pieces that are not too wide, as far as the fuel goes. -/
def folded (inBytes atSpaces : Bool) (width : Nat) :
    Nat → List Char → Nat → List Char → List (List Char)
  | 0, piece, _, rest => [piece.reverse ++ rest]
  | _, piece, _, [] => if piece.isEmpty then [] else [piece.reverse]
  | fuel + 1, piece, column, c :: rest =>
    let next := columnAfter inBytes column c
    if width < next && !piece.isEmpty then
      let isBlank (c : Char) : Bool := c == ' ' || c == '\t'
      let left := piece.takeWhile fun c => !isBlank c
      if atSpaces && left.length < piece.length then
        let moved := left.reverse
        let column := moved.foldl (columnAfter inBytes) 0
        (piece.drop left.length).reverse :: folded inBytes atSpaces width fuel left column (c :: rest)
      else piece.reverse :: folded inBytes atSpaces width fuel [] 0 (c :: rest)
    else folded inBytes atSpaces width fuel (c :: piece) next rest

/-- Writes lines that are not too wide. -/
def fold : Utility := fun arguments => do
  let grammar := Grammar.standard "fold" "bsw:"
    [("bytes", "b"), ("spaces", "s"), ("width:", "w")]
  let arguments := arguments.map fun argument =>
    match argument.toList with
    | '-' :: c :: rest =>
      if c.isDigit && rest.all Char.isDigit then "-w" ++ String.ofList (c :: rest) else argument
    | _ => argument
  let options ← grammar.take arguments
  let text := (options.value? "w").getD "80"
  match text.toNat? with
  | none => quit "fold" 1 ("invalid number of columns: " ++ inQuotes text)
  | some 0 => quit "fold" 1 ("invalid number of columns: " ++ inQuotes text ++
      ": Numerical result out of range")
  | some width =>
    overInputs "fold" options.operands () fun _ _ text =>
      let pieces (line : String) : String :=
        let parts := folded (options.has "b") (options.has "s") width (3 * line.length + 3) [] 0
          line.toList
        "\n".intercalate (parts.map String.ofList)
      Shell.put (ofLinesLike text ((linesOf text).map pieces))

/-- The programs that choose, put together and lay out parts of lines. -/
def fieldTable : List (String × Program) :=
  [("cut", alone cut), ("paste", alone paste), ("comm", alone comm), ("join", alone join),
    ("expand", alone expand), ("unexpand", alone unexpand), ("fold", alone fold)]

end Compositor.Script.Programs
