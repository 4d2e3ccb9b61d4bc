import Compositor.Simulation.Script.Programs.Options
import Compositor.Simulation.Script.Redirecting
import Compositor.Simulation.Script.Running

set_option autoImplicit false

/-!
# Inputs and outputs of programs

## Main definitions

* `Script.Programs.contentOf` — what can be read at a path.
* `Script.Programs.inputs` — the contents of files, or what is given to a program.
* `Script.Programs.saveTo` — puts a text into a file.
* `Script.Programs.linesOf`, `Script.Programs.ofLines` — the lines of a text, and back.
-/

namespace Compositor.Script.Programs

/-- A program that runs no others. -/
def alone (utility : Utility) : Program := fun _ => utility

/-! ## Inputs -/

/-- The channel on which a program reads a file that is named. -/
def fileChannel : Nat := 1000

/-- What can be read at a path, or why it cannot be read. -/
def contentOf (path : String) : Shell (Except String String) := do
  let session ← get
  match session.node? path with
  | some (.file content) => return .ok (Octets.ofBytes content)
  | some .directory => return .error FileError.isADirectory.summary
  | none =>
    match session.locate path with
    | .error cause => return .error cause.summary
    | .ok place =>
      if (channelOf? place).isSome then takeFrom path
      else return .error FileError.notFound.summary
  | some _ => takeFrom path
where
  /-- Takes all that can be read at a path that leads to no file. -/
  takeFrom (path : String) : Shell (Except String String) := do
    match ← openStream path ⟨true, false, false, false⟩ with
    | .error cause => return .error cause
    | .ok stream =>
      modify fun session => session.connectNew fileChannel stream
      let content ← Shell.takeUpTo fileChannel Shell.plenty 1000000 ""
      modify fun session => session.connect fileChannel none
      return .ok content

/-- How a program shows the name of a file. A name with characters that a shell would not take as
they are is put in quotes. -/
def quotedName (name : String) : String :=
  let isPlain (c : Char) : Bool :=
    c.isAlphanum || ['/', '.', '_', '-', '+', ',', '@', '%', ':', ']'].contains c ||
      127 < c.toNat
  if name ≠ "" && name.toList.all isPlain then name
  else if name.contains '\x27' && !name.contains '"' then "\"" ++ name ++ "\""
  else "\x27" ++ name.replace "\x27" "\x27\\\x27\x27" ++ "\x27"

/-- A name in single quotes. -/
def inQuotes (name : String) : String :=
  "\x27" ++ name.replace "\x27" "\x27\\\x27\x27" ++ "\x27"

/-- What is given to a program, or the content of a file; a dash stands for what is given. -/
def inputOf (path : String) : Shell (Except String String) := do
  if path = "-" then return .ok (← Shell.takeAll) else contentOf path

/-- The contents of files with their names, or what is given to a program if it names no file. What
cannot be read is told by some function, and then the program fails with some status. -/
def inputsBy (unread : String → String → Shell Unit) (failure : Nat) (paths : List String) :
    Shell (List (String × String)) := do
  Shell.finish 0
  let mut found := []
  for path in if paths.isEmpty then ["-"] else paths do
    match ← inputOf path with
    | .ok content => found := (path, content) :: found
    | .error cause =>
      unread path cause
      Shell.finish failure
  return found.reverse

/-- The contents of files with their names, or what is given to a program if it names no file. -/
def inputs (program : String) (paths : List String) : Shell (List (String × String)) :=
  inputsBy (fun path cause => report program (quotedName path ++ ": " ++ cause)) 1 paths

/-- Does something with the contents of files, or with what is given to a program if it names no
file, one after another. What cannot be read is told, and then the program fails. -/
def overInputs {σ : Type} (program : String) (paths : List String) (start : σ)
    (step : σ → String → String → Shell σ) : Shell σ := do
  Shell.finish 0
  let mut state := start
  for path in if paths.isEmpty then ["-"] else paths do
    match ← inputOf path with
    | .ok content => state ← step state path content
    | .error cause =>
      report program (quotedName path ++ ": " ++ cause)
      Shell.finish 1
  return state

/-- The contents of all inputs as one text. -/
def wholeInput (program : String) (paths : List String) : Shell String := do
  return String.join ((← inputs program paths).map Prod.snd)

/-! ## Outputs -/

/-- Puts a text into a file, in place of what is there or after it. -/
def saveTo (path : String) (atEnd : Bool) (text : String) : Shell (Except String Unit) := do
  match ← openStream path ⟨false, true, !atEnd, atEnd⟩ with
  | .error cause =>
    return .error (if cause = "Directory nonexistent" then FileError.notFound.summary else cause)
  | .ok stream =>
    modify fun session => session.connectNew fileChannel stream
    Shell.write fileChannel text
    modify fun session => session.connect fileChannel none
    return .ok ()

/-! ## Lines -/

/-- The lines of a text. The last one need not have an end. -/
def linesOf (text : String) : List String :=
  let all := text.splitOn "\n"
  if all.getLast? == some "" then all.dropLast else all

/-- Lines as one text. -/
def ofLines (lines : List String) : String :=
  String.join (lines.map (· ++ "\n"))

/-- Whether the last line of a text has an end. -/
def isComplete (text : String) : Bool :=
  text = "" || text.endsWith "\n"

/-- Lines as one text that has an end if another text has one. -/
def ofLinesLike (text : String) (lines : List String) : String :=
  if isComplete text then ofLines lines else "\n".intercalate lines

/-- The parts of a text that end with a character; the last one need not. -/
def recordsOf (ending : Char) (text : String) : List String :=
  let all := text.splitOn (String.singleton ending)
  if all.getLast? == some "" then all.dropLast else all

/-- Parts as one text, each with an end. -/
def ofRecords (ending : Char) (records : List String) : String :=
  String.join (records.map (· ++ String.singleton ending))

/-- Spaces. -/
def spaces (count : Nat) : String :=
  String.ofList (List.replicate count ' ')

/-- A text filled up with spaces before it. -/
def rightAligned (width : Nat) (text : String) : String :=
  spaces (width - text.length) ++ text

/-- A text filled up with spaces after it. -/
def leftAligned (width : Nat) (text : String) : String :=
  text ++ spaces (width - text.length)

/-- A number filled up with spaces to a width. -/
def padded (width n : Nat) : String :=
  rightAligned width (toString n)

/-- The characters of a text from one place up to another. -/
def slice (text : String) (first last : Nat) : String :=
  String.ofList ((text.toList.take last).drop first)

/-- A text without so many characters at its front. -/
def dropFront (count : Nat) (text : String) : String :=
  String.ofList (text.toList.drop count)

end Compositor.Script.Programs
