set_option autoImplicit false

/-!
# TOML values

## Main definitions

* `Toml.Value` — a value of a TOML document.
* `Toml.Table` — the entries of a table, each key at most once.
* `Toml.Origin` — how a table came about, which decides what may still be added to it.
-/

namespace Compositor.Toml

/-- How a table came about. -/
inductive Origin where
  /-- It was written between braces. -/
  | braces
  /-- It was opened by a header of its own. -/
  | header
  /-- It lies on the way to a table that was opened by a header. -/
  | passage
  /-- It lies on the way to a value that was given under a dotted key. -/
  | dotted
deriving DecidableEq

/-- A value of a TOML document. -/
inductive Value where
  /-- A text. -/
  | text (content : String)
  /-- A whole number of at most 64 bits. -/
  | integer (number : Int)
  /-- A double. -/
  | double (number : Float)
  /-- A truth value. -/
  | truth (value : Bool)
  /-- A date, a time of day or both, as written. -/
  | moment (written : String)
  /-- An array between brackets. -/
  | array (elements : List Value)
  /-- An array of tables with a header each. -/
  | tables (rows : List (List (String × Value)))
  /-- A table. -/
  | table (origin : Origin) (entries : List (String × Value))

/-- The entries of a table. -/
abbrev Table := List (String × Value)

namespace Table

/-- The value of a key. -/
def get? (table : Table) (key : String) : Option Value :=
  table.lookup key

/-- Gives a value to a key, which may have one already. -/
def set (table : Table) (key : String) (value : Value) : Table :=
  if (table.get? key).isSome then
    table.map fun entry => if entry.1 = key then (key, value) else entry
  else table ++ [(key, value)]

/-- Goes one key on towards what is to be changed inside a table. A missing table is made on the
way, and of an array of tables the last one is entered. -/
def descend? (table : Table) (key : String) (made : Origin) (change : Table → Option Table) :
    Option Table :=
  match table.get? key with
  | none => (change []).map fun inner => table.set key (.table made inner)
  | some (.table origin inner) =>
    if origin = .braces then none
    else (change inner).map fun inner => table.set key (.table origin inner)
  | some (.tables rows) =>
    match rows.getLast? with
    | some row => (change row).map fun row => table.set key (.tables (rows.dropLast ++ [row]))
    | none => none
  | some _ => none

/-- Whether a dotted key may lead through a key of a table. -/
def passable (table : Table) (key : String) : Bool :=
  match table.get? key with
  | some (.table origin _) => origin != .header
  | _ => true

/-- Whether a key of a table leads to a table that takes values under dotted keys. -/
def extensible (table : Table) (key : String) : Bool :=
  match table.get? key with
  | none => true
  | some (.table origin _) => origin == .dotted
  | some _ => false

/-- Gives a value to a dotted key that has none. Its tables must be made by dotted keys as well. -/
def assign? : List String → Value → Table → Option Table
  | [], _, _ => none
  | [key], value, table =>
    if (table.get? key).isSome then none else some (table.set key value)
  | [key, last], value, table =>
    if table.extensible key then table.descend? key .dotted (assign? [last] value) else none
  | key :: next :: rest, value, table =>
    if table.passable key then table.descend? key .dotted (assign? (next :: rest) value) else none

/-- Opens a table by its header and fills it. It may exist only as a passage to others. -/
def openTable? (fill : Table → Option Table) : List String → Table → Option Table
  | [], _ => none
  | [key], table =>
    match table.get? key with
    | none => (fill []).map fun inner => table.set key (.table .header inner)
    | some (.table .passage inner) =>
      (fill inner).map fun inner => table.set key (.table .header inner)
    | some _ => none
  | key :: rest, table => table.descend? key .passage (openTable? fill rest)

/-- Adds a table to an array of tables and fills it. -/
def appendTable? (fill : Table → Option Table) : List String → Table → Option Table
  | [], _ => none
  | [key], table =>
    match table.get? key with
    | none => (fill []).map fun row => table.set key (.tables [row])
    | some (.tables rows) => (fill []).map fun row => table.set key (.tables (rows ++ [row]))
    | some _ => none
  | key :: rest, table => table.descend? key .passage (appendTable? fill rest)

end Table

end Compositor.Toml
