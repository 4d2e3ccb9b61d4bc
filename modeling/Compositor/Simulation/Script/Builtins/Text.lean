import Compositor.Simulation.Script.Builtins.Basic
import Compositor.Simulation.Script.Formatted

set_option autoImplicit false

/-!
# Commands that write and read text

## Main definitions

* `Script.Builtins.echo`, `Script.Builtins.printf` — output.
* `Script.Builtins.readGlyphs` — the characters of a line that is read.
* `Script.Builtins.readFields` — the fields of a line that is read into variables.
* `Script.Builtins.read` — input.
-/

namespace Compositor.Script.Builtins

/-! ## Output -/

/-- Writes its arguments. -/
def echo : Utility := fun arguments => do
  let (words, ending) := match arguments with
    | "-n" :: rest => (rest, "")
    | _ => (arguments, "\n")
  let shown := unescape (" ".intercalate words)
  Shell.put (String.ofList shown.text ++ if shown.ends then "" else ending)
  Shell.finish 0

/-- Writes text by a format. -/
def printf : Utility := fun arguments => do
  match (← optionsOf [] arguments).2 with
  | [] => Shell.fail "usage: printf format [arg ...]"
  | format :: arguments =>
    let result := printed format arguments
    result.warnings.forM Shell.complain
    match result.invalid with
    | some place => Shell.complain (place ++ ": invalid directive")
    | none => pure ()
    Shell.put (String.ofList result.text)
    Shell.finish (if result.warnings.isEmpty then 0 else 1)
    if result.invalid.isSome then
      Shell.finish 2
      throw .failed

/-! ## Input -/

/-- Whether a line ends with a backslash that takes the meaning of its end away. -/
def isContinued (line : String) : Bool :=
  match line.toList.reverse with
  | '\n' :: rest => (rest.takeWhile (· == '\\')).length % 2 == 1
  | _ => false

/-- Takes a line and those that continue it, as far as the fuel goes. -/
def takeContinued (raw : Bool) : Nat → String → Shell String
  | 0, taken => return taken
  | fuel + 1, taken => do
    let line ← Shell.takeLine 0
    let all := taken ++ line
    if !raw && isContinued line then takeContinued raw fuel all else return all

/-- The characters of a line that is read, and whether it has an end. A backslash takes the meaning
of what follows it away. -/
def readGlyphs (raw : Bool) : List Char → List Glyph × Bool
  | [] => ([], false)
  | '\n' :: _ => ([], true)
  | '\\' :: c :: rest =>
    if raw then
      let (glyphs, complete) := readGlyphs raw (c :: rest)
      (.char '\\' .expanded :: glyphs, complete)
    else
      let (glyphs, complete) := readGlyphs raw rest
      (if c = '\n' then glyphs else .char c .quoted :: glyphs, complete)
  | ['\\'] => (if raw then [.char '\\' .expanded] else [], false)
  | c :: rest =>
    let (glyphs, complete) := readGlyphs raw rest
    (if c = '\x00' then glyphs else .char c .expanded :: glyphs, complete)

/-- Whether a glyph separates fields. -/
def isSeparator (separators : List Char) : Glyph → Bool
  | .char c .expanded => separators.contains c
  | _ => false

/-- Whether a glyph is a space that separates fields. -/
def isBlank (separators : List Char) (glyph : Glyph) : Bool :=
  isSeparator separators glyph &&
    match glyph with
    | .char c _ => [' ', '\t', '\n'].contains c
    | _ => false

/-- The first field of a line, and what follows the separator after it. -/
def firstField (separators : List Char) (line : List Glyph) : List Glyph × List Glyph :=
  let line := line.dropWhile (isBlank separators)
  let field := line.takeWhile fun glyph => !isSeparator separators glyph
  let rest := (line.drop field.length).dropWhile (isBlank separators)
  (field,
    if rest.head?.any (isSeparator separators) then (rest.drop 1).dropWhile (isBlank separators)
    else rest)

/-- A line with no more than one field without its separators, and any other line without the spaces
at its end. -/
def lastField (separators : List Char) (line : List Glyph) : List Glyph :=
  let line := line.dropWhile (isBlank separators)
  let (field, rest) := firstField separators line
  if rest.isEmpty then field
  else (line.reverse.dropWhile (isBlank separators)).reverse

/-- The fields of a line that is read into so many variables. The last one takes what is left. -/
def readFields (separators : List Char) : Nat → List Glyph → List String
  | 0, _ => []
  | 1, line => [Glyph.text (lastField separators line)]
  | n + 2, line =>
    let (field, rest) := firstField separators line
    Glyph.text field :: readFields separators (n + 1) rest

/-- The options of `read`, whose prompt nobody sees, and its other arguments. The first argument may
be a prompt. -/
def readOptions (isPrompt : Bool) : List String → Shell (Bool × List String)
  | [] => return (false, [])
  | argument :: rest =>
    if isPrompt then readOptions false rest
    else
      match argument.toList with
      | ['-', '-'] => return (false, rest)
      | ['-', 'p'] => readOptions true rest
      | '-' :: 'p' :: _ => readOptions false rest
      | ['-', 'r'] => do return (true, (← readOptions false rest).2)
      | ['-', 'r', 'p'] => do return (true, (← readOptions true rest).2)
      | '-' :: 'r' :: c :: _ | '-' :: c :: _ =>
        Shell.fail ("Illegal option -" ++ String.singleton c)
      | _ => return (false, argument :: rest)

/-- Reads a line into variables. -/
def read : Utility := fun arguments => do
  let (raw, names) ← readOptions false arguments
  if names.isEmpty then Shell.fail "arg count"
  let text ← takeContinued raw 1000000 ""
  let (line, complete) := readGlyphs raw text.toList
  let values := readFields (← get).separators.toList names.length line
  for (name, value) in names.zip values do
    Shell.assign name value
  Shell.finish (if complete then 0 else 1)

end Compositor.Script.Builtins
