import Compositor.Toml.Scalar

set_option autoImplicit false

/-!
# TOML documents

A document is a sequence of assignments under headers. Reading it takes two steps: its text is read
into sections, and the sections are joined into one table. Either step may fail; no diagnostic is
given.

## Main definitions

* `Toml.key`, `Toml.value` — keys and values.
* `Toml.Section` — the assignments under one header.
* `Toml.sections` — the sections of a document.
* `Toml.Table.ofText?` — the table that a document describes.
-/

namespace Compositor.Toml

open Reader

/-! ## Keys and values -/

/-- Whether a character may stand in a key without quotes. -/
def isKeyCharacter (c : Char) : Bool :=
  c.isAlphanum || c == '_' || c == '-'

/-- A key without dots. -/
def simpleKey : Reader String :=
  lineText <|> do
    let characters ← span isKeyCharacter
    require (!characters.isEmpty)
    return String.ofList characters

/-- The number of parts from which on a key is refused, and the depth from which on a value is. -/
def depthLimit : Nat := 80

/-- A key, whose parts are separated by dots. -/
def key : Reader (List String) := do
  let first ← part
  let rest ← many (do symbol ['.']; part)
  require (decide (rest.length + 1 < depthLimit))
  return first :: rest
where
  part : Reader String := do
    blanks
    let name ← simpleKey
    blanks
    return name

/-- An assignment of a value to a key. -/
def assignment (item : Reader Value) : Reader (List String × Value) := do
  let path ← key
  symbol ['=']
  blanks
  return (path, ← item)

/-- An array. Line ends and comments may stand in it, and a comma before its end. -/
def array (item : Reader Value) : Reader Value := do
  symbol ['[']
  let elements ← listed (do gap; let element ← item; gap; return element)
  if !elements.isEmpty then
    let _ ← optional (symbol [','])
  gap
  symbol [']']
  return .array elements

/-- A table in braces. It stands on one line. -/
def bracedTable (item : Reader Value) : Reader Value := do
  symbol ['\x7b']
  let assignments ← listed (do let pair ← assignment item; blanks; return pair)
  blanks
  symbol ['\x7d']
  match assignments.foldlM (fun table pair => Table.assign? pair.1 pair.2 table) [] with
  | some entries => return .table .braces entries
  | none => failure

/-- A value with at most so many arrays and tables in one another. -/
def value : Nat → Reader Value
  | 0 => Value.text <$> text <|> scalar
  | depth + 1 =>
    Value.text <$> text <|> array (value depth) <|> bracedTable (value depth) <|> scalar

/-! ## Sections -/

/-- What an assignment belongs to. -/
inductive Heading where
  /-- The document itself. -/
  | root
  /-- A table of its own. -/
  | table (path : List String)
  /-- The next table of an array. -/
  | row (path : List String)

/-- The assignments under one header. -/
structure Section where
  /-- What the header names. -/
  heading : Heading
  /-- The assignments, in their order. -/
  assignments : List (List String × Value)

/-- A header. -/
def heading : Reader Heading :=
  (do
    symbol ['[', '[']
    let path ← key
    symbol [']', ']']
    return .row path) <|>
  (do
    symbol ['[']
    let path ← key
    symbol [']']
    return .table path)

/-- Assignments, each on a line of its own. -/
def assignments : Reader (List (List String × Value)) :=
  many do
    gap
    let pair ← assignment (value (depthLimit - 1))
    lineEnd
    return pair

/-- A section with its header. -/
def headedSection : Reader Section := do
  gap
  let heading ← heading
  lineEnd
  return ⟨heading, ← assignments⟩

/-- The sections of a document. A byte order mark may go before them. -/
def sections : Reader (List Section) := do
  let _ ← optional (symbol ['\ufeff'])
  let root ← assignments
  let rest ← many headedSection
  gap
  return ⟨.root, root⟩ :: rest

/-! ## The table of a document -/

namespace Table

/-- Adds the assignments of a section to a document. -/
def addSection? (table : Table) (part : Section) : Option Table :=
  let fill := fun (inner : Table) =>
    part.assignments.foldlM (fun inner pair => assign? pair.1 pair.2 inner) inner
  match part.heading with
  | .root => fill table
  | .table path => openTable? fill path table
  | .row path => appendTable? fill path table

/-- Joins sections into one table. -/
def ofSections? (parts : List Section) : Option Table :=
  parts.foldlM addSection? []

/-- The table that a document describes. -/
def ofText? (text : String) : Option Table :=
  match sections.run text.toList with
  | some parts => ofSections? parts
  | none => none

end Table

end Compositor.Toml
