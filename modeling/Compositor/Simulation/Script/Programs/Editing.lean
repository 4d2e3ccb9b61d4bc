import Compositor.Simulation.Script.Programs.Editing.Reading
import Compositor.Simulation.Script.Programs.Editing.Running
import Compositor.Simulation.Script.Programs.Lines

set_option autoImplicit false

/-!
# Editing lines

## Main definitions

* `Script.Programs.sed` — edits the lines of its inputs.
-/

namespace Compositor.Script.Programs

open Edit

/-- The files to which a script writes. -/
def filesOf (instructions : Array Instruction) : List String :=
  (instructions.toList.filterMap fun instruction =>
    match instruction.action with
    | .write path | .writeFirst path => some path
    | .substitute substitution => substitution.file
    | _ => none).eraseDups

/-- The script that options give. -/
def scriptOf (options : Options) : Shell (Option String) := do
  let mut parts : List String := []
  for (name, value) in options.given do
    if name = "e" then parts := parts ++ [value]
    else if name = "f" then
      match ← inputOf value with
      | .ok text => parts := parts ++ [if text.endsWith "\n" then
          String.ofList text.toList.dropLast else text]
      | .error cause => quit "sed" 1 ("couldn\x27t open file " ++ value ++ ": " ++ cause)
  return if options.has "e" || options.has "f" then some ("\n".intercalate parts) else none

/-- Puts what was written to files into them. -/
def saveFiles (files : List (String × Writing)) : Shell Unit := do
  for (path, writing) in files do
    if path = "/dev/stderr" then Shell.write 2 writing.text
    else
      match ← saveTo path false writing.text with
      | .ok () => pure ()
      | .error cause => quit "sed" 4 ("couldn\x27t open file " ++ path ++ ": " ++ cause)

/-- The name under which an old file is kept. -/
def backupName (suffix path : String) : String :=
  if suffix.contains '*' then
    let name := suffix.replace "*" (lastName path)
    if suffix.contains '/' then name else inDirectory (directoryName path) name
  else path ++ suffix

/-- Edits files in place. -/
def editInPlace (setting : Edit.Setting) (suffix : String) (paths : List String) : Shell Unit := do
  let mut files : List (String × Writing) := (filesOf setting.instructions).map (·, ⟨[], false⟩)
  let mut held : Line := ⟨"", true⟩
  let mut stopped : Option Nat := none
  for path in paths do
    if stopped.isSome then break
    let session ← get
    match session.node? path with
    | some .directory =>
      report "sed" ("couldn\x27t edit " ++ path ++ ": not a regular file")
      Shell.finish 4
    | none =>
      report "sed" ("can\x27t read " ++ path ++ ": No such file or directory")
      Shell.finish 2
    | some _ =>
      match session.contents path with
      | .error cause =>
        report "sed" ("can\x27t read " ++ path ++ ": " ++ cause.summary)
        Shell.finish 2
      | .ok text =>
        let start := Editor.start setting (Edit.linesOf setting.ending path text)
        let (status, last) := edited setting { start with files := files, held := held }
        files := last.files
        held := last.held
        stopped := status
        let rest := String.join (last.input.map fun line => line.toLine.shown setting)
        if suffix ≠ "" then
          match session.locateName path, placeOf session false (backupName suffix path) with
          | .ok place, .ok target =>
            match session.files.number? place with
            | some _ =>
              modify fun session =>
                let moved := { session with files := session.files.move place target }
                moved.create place (.file ByteArray.empty)
            | none => pure ()
          | _, _ => pure ()
        let _ ← saveTo path false (last.out.text ++ rest)
  saveFiles files
  match stopped with
  | some status => if status ≠ 0 then Shell.finish status
  | none => pure ()

/-- Edits the lines of all inputs one after another. -/
def editInputs (setting : Edit.Setting) (isSeparate : Bool) (paths : List String) : Shell Unit := do
  let mut inputs : List (List Source) := []
  for path in if paths.isEmpty then ["-"] else paths do
    match ← inputOf path with
    | .ok text => inputs := inputs ++ [Edit.linesOf setting.ending path text]
    | .error cause =>
      if cause = "Is a directory" then
        report "sed" ("read error on " ++ path ++ ": Is a directory")
      else report "sed" ("can\x27t read " ++ path ++ ": " ++ cause)
      Shell.finish 2
  let units := if isSeparate then inputs else [inputs.flatten]
  let start := Editor.start setting []
  let mut editor : Editor :=
    { start with files := (filesOf setting.instructions).map (·, ⟨[], false⟩) }
  let mut stopped : Option Nat := none
  for unit in units do
    if stopped.isNone then
      let (status, next) := edited setting { editor with input := unit, number := 0 }
      stopped := status
      editor := next
  Shell.put editor.out.text
  if editor.lacksExpression then
    report "sed" "-e expression #1, char 0: no previous regular expression"
  saveFiles (editor.files.filter fun entry => entry.1 ≠ "/dev/stdout")
  match stopped with
  | some status =>
    if status ≠ 0 then Shell.finish status
    if paths.isEmpty || paths = ["-"] then
      Shell.giveBack 0 (editor.input.foldl
        (fun n line => n + line.text.length + (if line.isEnded then 1 else 0)) 0)
  | none => pure ()

/-- Edits the lines of its inputs. -/
def sed : Utility := fun arguments => do
  let usage := "Usage: sed [OPTION]... \x7bscript-only-if-no-other-script\x7d [input-file]...\n\n"
  let grammar := { Grammar.standard "sed" "bsnrzuEe:f:l:i::V:"
    [("expression:", "e"), ("file:", "f"), ("in-place::", "i"), ("line-length:", "l"),
      ("null-data", "z"), ("zero-terminated", "z"), ("quiet", "n"), ("silent", "n"),
      ("posix", "posix"), ("regexp-extended", "E"), ("separate", "s"), ("unbuffered", "u"),
      ("sandbox", "sandbox"), ("debug", "debug"), ("follow-symlinks", "follow"),
      ("binary", "b")] with hint := usage }
  let options ← grammar.take arguments
  let given ← scriptOf options
  let (text, paths) ← match given, options.operands with
    | some text, paths => pure (text, paths)
    | none, text :: paths => pure (text, paths)
    | none, [] => do
      Shell.write 2 usage
      leave 1
  let isExtended := options.has "E" || options.has "r"
  match read isExtended text with
  | .error mistake =>
    let place := match mistake.left with
      | some left => "-e expression #1, char " ++ toString (text.length - left) ++ ": "
      | none => if mistake.message.startsWith "unmatched" then "-e expression #1, char 0: " else ""
    let isLabel := mistake.message.startsWith "can\x27t find label"
    quit "sed" (if isLabel then 4 else 1) (place ++ mistake.message)
  | .ok instructions =>
    let session ← get
    let setting : Edit.Setting :=
      { instructions := instructions
        isQuiet := options.has "n" || text.startsWith "#n\n" || text = "#n"
        ending := if options.has "z" then '\x00' else '\n'
        width := (((options.value? "l").bind String.toNat?).getD 70)
        contents := fun path => (session.contents path).toOption }
    Shell.finish 0
    match options.value? "i" with
    | some suffix =>
      if paths.isEmpty then quit "sed" 4 "no input files"
      editInPlace setting suffix paths
    | none => editInputs setting (options.has "s") paths

/-- The program that edits lines. -/
def editTable : List (String × Program) := [("sed", alone sed)]

end Compositor.Script.Programs
