import Compositor.Simulation.Script.Programs.Editing.Basic

set_option autoImplicit false

/-!
# Running editing commands

The lines of some inputs are taken one after another, and the instructions run for each of them. What
is written, also to files, is collected.

## Main definitions

* `Script.Edit.Line` — a line that is edited.
* `Script.Edit.Writing` — what has been written.
* `Script.Edit.Editor` — the state of editing.
* `Script.Edit.edited` — what becomes of the lines of an input.
-/

namespace Compositor.Script.Edit

/-- A line that is edited. -/
structure Line where
  /-- The text. -/
  text : String
  /-- Whether it has an end. -/
  isEnded : Bool

/-- A line of an input. -/
structure Source extends Line where
  /-- The name of the input. -/
  name : String

/-- What has been written. -/
structure Writing where
  /-- The pieces, the last one first. -/
  pieces : List String
  /-- Whether the end of the last line is missing. -/
  isOpen : Bool

/-- What has been written, as one text. -/
def Writing.text (writing : Writing) : String :=
  String.join writing.pieces.reverse

/-- What is written after the line. -/
inductive Later where
  /-- A text. -/
  | text (content : String)
  /-- The content of a file. -/
  | file (path : String)
  /-- A line of a file. -/
  | line (line : Line)

/-- Whether a range of lines has begun. -/
inductive Phase where
  /-- It has not. -/
  | idle
  /-- It has, and it ends with a line whose number may be known. -/
  | active (last : Option Nat)

/-- How editing is done. -/
structure Setting where
  /-- The instructions. -/
  instructions : Array Instruction
  /-- Whether lines are written only when asked for. -/
  isQuiet : Bool
  /-- The end of lines. -/
  ending : Char
  /-- The width of lines whose unusual characters are made visible. -/
  width : Nat
  /-- The content of a file. -/
  contents : String → Option String

/-- The state of editing. -/
structure Editor where
  /-- The lines that have not been taken. -/
  input : List Source
  /-- The number of the line. -/
  number : Nat
  /-- The name of the input. -/
  name : String
  /-- The line. -/
  line : Line
  /-- What has been put aside. -/
  held : Line
  /-- Whether something has been replaced. -/
  isReplaced : Bool
  /-- What is written after the line, the last one first. -/
  later : List Later
  /-- What has been written. -/
  out : Writing
  /-- What has been written to files. -/
  files : List (String × Writing)
  /-- What is left of files whose lines are read. -/
  readers : List (String × List Line)
  /-- The ranges of the instructions. -/
  phases : Array Phase
  /-- The expression that was used last. -/
  recent : Option Regular
  /-- Whether the last expression was needed and there was none. -/
  lacksExpression : Bool

/-! ## Writing -/

/-- More that has been written. A missing end is put in first. -/
def Writing.add (writing : Writing) (ending : Char) (text : String) (isOpen : Bool) : Writing :=
  let pieces := if writing.isOpen then String.singleton ending :: writing.pieces
    else writing.pieces
  ⟨text :: pieces, isOpen⟩

/-- Writes a text. -/
def Editor.put (setting : Setting) (text : String) (editor : Editor) : Editor :=
  { editor with out := editor.out.add setting.ending text false }

/-- A line as it is written. -/
def Line.shown (setting : Setting) (line : Line) : String :=
  if line.isEnded then line.text ++ String.singleton setting.ending else line.text

/-- Writes a line. -/
def Editor.putLine (setting : Setting) (line : Line) (editor : Editor) : Editor :=
  { editor with out := editor.out.add setting.ending (line.shown setting) (!line.isEnded) }

/-- Writes a line to a file. -/
def Editor.putTo (setting : Setting) (path : String) (line : Line) (editor : Editor) : Editor :=
  if path = "/dev/stdout" then editor.putLine setting line
  else
    let change (writing : Writing) : Writing :=
      writing.add setting.ending (line.shown setting) (!line.isEnded)
    let files := if editor.files.any fun entry => entry.1 == path then
        editor.files.map fun entry =>
          if entry.1 = path then (path, change entry.2) else entry
      else editor.files ++ [(path, change ⟨[], false⟩)]
    { editor with files := files }

/-- The content of a file, which may have been written before. -/
def Editor.contentOf (setting : Setting) (editor : Editor) (path : String) : Option String :=
  match editor.files.lookup path with
  | some writing => some writing.text
  | none => setting.contents path

/-- Writes what comes after the line. -/
def Editor.putLater (setting : Setting) (editor : Editor) : Editor :=
  let write (editor : Editor) (later : Later) : Editor :=
    match later with
    | .text content => editor.put setting content
    | .line line => editor.putLine setting line
    | .file path =>
      match editor.contentOf setting path with
      | some content => if content = "" then editor else editor.put setting content
      | none => editor
  { editor.later.reverse.foldl write editor with later := [] }

/-! ## Lines -/

/-- The lines of a text. -/
def linesOf (ending : Char) (name text : String) : List Source :=
  let pieces := text.splitOn (String.singleton ending)
  let whole := pieces.dropLast.map fun piece => Source.mk ⟨piece, true⟩ name
  let last := pieces.getLastD ""
  if last = "" then whole else whole ++ [⟨⟨last, false⟩, name⟩]

/-- Takes the next line, perhaps in addition to the one that is there. -/
def Editor.advance (setting : Setting) (isMore : Bool) (editor : Editor) : Option Editor :=
  let editor := editor.putLater setting
  match editor.input with
  | [] => none
  | next :: rest =>
    let text := if isMore then
        editor.line.text ++ String.singleton setting.ending ++ next.text
      else next.text
    some { editor with
      input := rest
      number := editor.number + 1
      name := next.name
      line := ⟨text, next.isEnded⟩
      isReplaced := if isMore then editor.isReplaced else false }

/-! ## Choosing lines -/

/-- The expression that is meant, and the editor that remembers it. -/
def Editor.use (expression : Option Regular) (editor : Editor) : Option Regular × Editor :=
  match expression with
  | some found => (some found, { editor with recent := some found })
  | none => (editor.recent, { editor with lacksExpression := editor.recent.isNone })

/-- Whether the line is at an address. -/
def Editor.isAt (address : Address) (editor : Editor) : Bool × Editor :=
  match address with
  | .line n => (editor.number = n, editor)
  | .every first step =>
    (if step = 0 then editor.number = first
      else first ≤ editor.number && (editor.number - first) % step = 0, editor)
  | .last => (editor.input.isEmpty, editor)
  | .found expression =>
    match editor.use expression with
    | (some expression, editor) =>
      (expression.isFound editor.line.text.toList.toArray, editor)
    | (none, editor) => (false, editor)

/-- The editor after a range has changed. -/
def Editor.setPhase (index : Nat) (phase : Phase) (editor : Editor) : Editor :=
  { editor with phases := editor.phases.setIfInBounds index phase }

/-- Begins a range of lines, unless this is its only line. -/
def Editor.begin (index : Nat) (last : Finish) (editor : Editor) : Editor :=
  let until_ (n : Nat) : Editor :=
    if n ≤ editor.number then editor else editor.setPhase index (.active (some n))
  match last with
  | .address (.line n) => until_ n
  | .later count => until_ (editor.number + count)
  | .multiple n =>
    if n = 0 || editor.number % n = 0 then editor
    else until_ (editor.number / n * n + n)
  | .address _ => editor.setPhase index (.active none)

/-- Whether the line belongs to a range. -/
def Editor.isWithin (index : Nat) (first : Address) (last : Finish) (editor : Editor) :
    Bool × Editor :=
  match editor.phases.getD index .idle with
  | .idle =>
    let (begins, editor) := editor.isAt first
    if begins then (true, editor.begin index last) else (false, editor)
  | .active (some n) =>
    if editor.number < n then (true, editor)
    else if editor.number = n then (true, editor.setPhase index .idle)
    else
      let (begins, editor) := (editor.setPhase index .idle).isAt first
      if begins then (true, editor.begin index last) else (false, editor)
  | .active none =>
    match last with
    | .address address =>
      let (ends, editor) := editor.isAt address
      (true, if ends then editor.setPhase index .idle else editor)
    | _ => (true, editor)

/-- Whether an instruction applies to the line. -/
def Editor.selects (index : Nat) (selector : Selector) (editor : Editor) : Bool × Editor :=
  let (found, editor) := match selector.first, selector.last with
    | none, _ => (true, editor)
    | some first, none => editor.isAt first
    | some first, some last => editor.isWithin index first last
  (found != selector.negated, editor)

/-! ## Making characters visible -/

/-- A character as it is listed. -/
def listedCharacter (c : Char) : List Char :=
  match c with
  | '\\' => ['\\', '\\']
  | '\x07' => ['\\', 'a']
  | '\x08' => ['\\', 'b']
  | '\x0c' => ['\\', 'f']
  | '\n' => ['\\', 'n']
  | '\r' => ['\\', 'r']
  | '\t' => ['\\', 't']
  | '\x0b' => ['\\', 'v']
  | c =>
    if ' ' ≤ c && c ≤ '~' then [c]
    else
      let digits := Nat.toDigits 8 c.toNat
      '\\' :: (List.replicate (3 - digits.length) '0' ++ digits)

/-- A text as it is listed, in pieces of a width. -/
def listed (width : Nat) (text : String) : String :=
  let (done, last) := text.toList.foldl
    (fun (state : List (List Char) × List Char) c =>
      let shown := listedCharacter c
      if 1 < width && width - 1 < state.2.length + shown.length then
        (('\n' :: '\\' :: state.2) :: state.1, shown.reverse)
      else (state.1, shown.reverse ++ state.2))
    ([], [])
  String.ofList ((done.reverse.map List.reverse).flatten ++ last.reverse ++ ['$', '\n'])

/-! ## Instructions -/

/-- How editing goes on. -/
inductive Flow where
  /-- With the next instruction. -/
  | next
  /-- With another instruction. -/
  | jump (target : Nat)
  /-- With the next line, after this one has been dropped. -/
  | drop
  /-- With the first instruction and the line as it is. -/
  | again
  /-- It ends, perhaps after the line has been written. -/
  | stop (status : Nat) (writes : Bool)

/-- The first line of several, and the others. -/
def firstLine (text : String) : String × Option String :=
  match text.splitOn "\n" with
  | [] => ("", none)
  | [single] => (single, none)
  | first :: rest => (first, some ("\n".intercalate rest))

/-- What an instruction does. -/
def Action.run (setting : Setting) (index : Nat) (selector : Selector) (action : Action)
    (editor : Editor) : Flow × Editor :=
  let line := editor.line
  match action with
  | .block _ | .nothing => (.next, editor)
  | .number => (.next, editor.put setting (toString editor.number ++ "\n"))
  | .append text => (.next, { editor with later := .text text :: editor.later })
  | .insert text => (.next, editor.put setting text)
  | .change text =>
    let isInside := selector.last.isSome && !selector.negated &&
      match editor.phases.getD index .idle with
      | .active _ => true
      | .idle => false
    (.drop, if isInside then editor else editor.put setting text)
  | .branch target => (.jump target, editor)
  | .branchIf target =>
    if editor.isReplaced then (.jump target, { editor with isReplaced := false })
    else (.next, editor)
  | .branchUnless target =>
    if editor.isReplaced then (.next, { editor with isReplaced := false })
    else (.jump target, editor)
  | .delete => (.drop, editor)
  | .deleteFirst =>
    match firstLine line.text with
    | (_, none) => (.drop, editor)
    | (_, some rest) => (.again, { editor with line := { line with text := rest } })
  | .name => (.next, editor.put setting (editor.name ++ "\n"))
  | .get => (.next, { editor with line := editor.held })
  | .getMore =>
    (.next, { editor with
      line := ⟨line.text ++ String.singleton setting.ending ++ editor.held.text,
        editor.held.isEnded⟩ })
  | .hold => (.next, { editor with held := line })
  | .holdMore =>
    (.next, { editor with
      held := ⟨editor.held.text ++ String.singleton setting.ending ++ line.text, line.isEnded⟩ })
  | .exchange => (.next, { editor with line := editor.held, held := line })
  | .list width => (.next, editor.put setting (listed (width.getD setting.width) line.text))
  | .next =>
    if editor.input.isEmpty then (.stop 0 (!setting.isQuiet), editor)
    else
      let written := if setting.isQuiet then editor else editor.putLine setting line
      match written.advance setting false with
      | some after => (.next, after)
      | none => (.stop 0 false, written)
  | .nextMore =>
    match editor.input with
    | [] => (.stop 0 (!setting.isQuiet), editor)
    | _ =>
      match editor.advance setting true with
      | some after => (.next, after)
      | none => (.stop 0 false, editor)
  | .print => (.next, editor.putLine setting line)
  | .printFirst => (.next, editor.putLine setting ⟨(firstLine line.text).1, true⟩)
  | .quit status isQuiet => (.stop status (!isQuiet && !setting.isQuiet), editor)
  | .read path => (.next, { editor with later := .file path :: editor.later })
  | .readLine path =>
    let left := match editor.readers.lookup path with
      | some left => left
      | none => (linesOf setting.ending path
          ((editor.contentOf setting path).getD "")).map Source.toLine
    let readers := (path, left.drop 1) :: editor.readers.filter fun entry => entry.1 ≠ path
    match left with
    | [] => (.next, { editor with readers := readers })
    | first :: _ =>
      (.next, { editor with readers := readers, later := .line first :: editor.later })
  | .substitute substitution =>
    match editor.use substitution.expression with
    | (none, editor) => (.stop 1 false, editor)
    | (some expression, editor) =>
      match substituted? substitution expression line.text with
      | none => (.next, editor)
      | some text =>
        let line := { line with text := text }
        let editor := { editor with line := line, isReplaced := true }
        let editor := if substitution.writes then editor.putLine setting line else editor
        (.next, match substitution.file with
          | some path => editor.putTo setting path line
          | none => editor)
  | .write path => (.next, editor.putTo setting path line)
  | .writeFirst path =>
    (.next, editor.putTo setting path ⟨(firstLine line.text).1, true⟩)
  | .translate pairs =>
    let change (c : Char) : Char := (pairs.lookup c).getD c
    (.next, { editor with
      line := { line with text := String.ofList (line.text.toList.map change) } })
  | .clear => (.next, { editor with line := { line with text := "" } })

/-- Runs the instructions for a line from one of them on, as far as the fuel goes. -/
def runLine (setting : Setting) : Nat → Nat → Editor → Flow × Editor
  | 0, _, editor => (.stop 1 false, editor)
  | fuel + 1, index, editor =>
    match setting.instructions[index]? with
    | none => (.next, editor)
    | some ⟨selector, action⟩ =>
      let (applies, editor) := editor.selects index selector
      if editor.lacksExpression then (.stop 1 false, editor)
      else if applies then
        match action.run setting index selector editor with
        | (.next, editor) => runLine setting fuel (index + 1) editor
        | (.jump target, editor) => runLine setting fuel target editor
        | other => other
      else
        match action with
        | .block after => runLine setting fuel (after + 1) editor
        | _ => runLine setting fuel (index + 1) editor

/-- The greatest number of instructions that run for a line. -/
def instructionLimit : Nat := 10000000

/-- Runs the instructions for a line that is there and for those that follow, as far as the fuel
goes. The status is returned if editing was ended. -/
def runLines (setting : Setting) : Nat → Editor → Option Nat × Editor
  | 0, editor => (none, editor)
  | fuel + 1, editor =>
    match runLine setting instructionLimit 0 editor with
    | (.again, editor) => runLines setting fuel (editor.putLater setting)
    | (.stop status writes, editor) =>
      let written := if writes then editor.putLine setting editor.line else editor
      (some status, written.putLater setting)
    | (.drop, editor) => more fuel editor
    | (_, editor) =>
      more fuel (if setting.isQuiet then editor else editor.putLine setting editor.line)
where
  /-- Goes on with the next line. -/
  more (fuel : Nat) (editor : Editor) : Option Nat × Editor :=
    match editor.advance setting false with
    | some next => runLines setting fuel next
    | none => (none, editor.putLater setting)

/-- Whether a range is already there before the first line. -/
def startPhase (instruction : Instruction) : Phase :=
  match instruction.selector.first with
  | some (.line 0) => .active none
  | _ => .idle

/-- The editor before its first line. -/
def Editor.start (setting : Setting) (input : List Source) : Editor :=
  { input := input
    number := 0
    name := "-"
    line := ⟨"", true⟩
    held := ⟨"", true⟩
    isReplaced := false
    later := []
    out := ⟨[], false⟩
    files := []
    readers := []
    phases := setting.instructions.map startPhase
    recent := none
    lacksExpression := false }

/-- Edits the lines of an input, and returns a status if editing was ended. -/
def edited (setting : Setting) (editor : Editor) : Option Nat × Editor :=
  match editor.advance setting false with
  | none => (none, editor)
  | some first =>
    let lengths := editor.input.foldl (fun n line => n + line.text.length + 1) 0
    runLines setting (lengths + editor.input.length + instructionLimit) first

end Compositor.Script.Edit
