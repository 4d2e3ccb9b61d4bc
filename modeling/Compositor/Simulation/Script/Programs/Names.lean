import Compositor.Simulation.Script.Programs.Basic

set_option autoImplicit false

/-!
# Programs for the names of files

## Main definitions

* `Script.Programs.lastName`, `Script.Programs.directoryName` — the parts of a path.
* `Script.Programs.resolved` — the place to which a path leads, if some of it may be missing.
* `Script.Programs.nameTable` — the programs for names.
-/

namespace Compositor.Script.Programs

/-! ## Parts of paths -/

/-- A path without slashes at its end. -/
def withoutSlashes (path : String) : String :=
  let left := (path.toList.reverse.dropWhile (· == '/')).reverse
  if left.isEmpty && path ≠ "" then "/" else String.ofList left

/-- The last name of a path. -/
def lastName (path : String) : String :=
  let short := withoutSlashes path
  if short = "/" then short
  else String.ofList (short.toList.reverse.takeWhile (· != '/')).reverse

/-- The path of the directory of a path. -/
def directoryName (path : String) : String :=
  let short := withoutSlashes path
  if short = "/" then short
  else
    let above := (short.toList.reverse.dropWhile (· != '/')).reverse
    if above.isEmpty then "." else withoutSlashes (String.ofList above)

/-- A path in a directory. -/
def inDirectory (directory name : String) : String :=
  if directory.endsWith "/" then directory ++ name else directory ++ "/" ++ name

/-- A text without an ending, unless that is all there is. -/
def withoutEnding (ending text : String) : String :=
  if ending ≠ "" && text ≠ ending && text.endsWith ending then
    slice text 0 (text.length - ending.length)
  else text

/-! ## Programs -/

/-- Writes the last names of paths. -/
def basename : Utility := fun arguments => do
  let grammar := Grammar.ordered "basename" "as:z"
    [("multiple", "a"), ("suffix:", "s"), ("zero", "z")]
  let options ← grammar.take arguments
  let ending := if options.has "z" then '\x00' else '\n'
  Shell.finish 0
  match options.operands with
  | [] => grammar.missingOperand none
  | path :: rest =>
    if options.has "a" || options.has "s" then
      let cut := (options.value? "s").getD ""
      Shell.put (ofRecords ending ((path :: rest).map fun path =>
        withoutEnding cut (lastName path)))
    else
      match rest with
      | [] => Shell.put (ofRecords ending [lastName path])
      | [cut] => Shell.put (ofRecords ending [withoutEnding cut (lastName path)])
      | _ :: other :: _ => grammar.extraOperand other

/-- Writes the paths of the directories of paths. -/
def dirname : Utility := fun arguments => do
  let grammar := Grammar.standard "dirname" "z" [("zero", "z")]
  let options ← grammar.take arguments
  Shell.finish 0
  if options.operands.isEmpty then grammar.missingOperand none
  Shell.put (ofRecords (if options.has "z" then '\x00' else '\n')
    (options.operands.map directoryName))

/-- What of a path must exist. -/
inductive Strictness where
  /-- All of it. -/
  | all
  /-- All but the last name. -/
  | allButLast
  /-- Nothing. -/
  | nothing

/-- The place to which a path leads. Where nothing need exist, missing names are taken as they
are. -/
def resolved (session : Session) (strictness : Strictness) (path : String) :
    Except FileError Place :=
  match session.locate path with
  | .ok place =>
    match strictness, session.files.node? place with
    | .all, none => .error .notFound
    | _, some node =>
      if path.endsWith "/" && !node.isDirectory && !strictness matches .nothing then
        .error .notADirectory
      else .ok place
    | _, none => .ok place
  | .error cause =>
    match strictness with
    | .nothing =>
      let text := Octets.toText path
      .ok (Path.pieces text |>.foldl
        (fun place piece =>
          if Path.isIdle piece then place
          else if piece = ".." then place.dropLast
          else
            match session.files.walk true 40 place [piece] with
            | .ok found => found
            | .error _ => place ++ [piece])
        (FileTree.origin session.here text))
    | _ => .error cause

/-- The path of a place. -/
def pathOf (place : Place) : String :=
  Octets.ofText (Place.path place)

/-- The path that leads from one place to another. -/
def relativePath (start target : Place) : String :=
  let shared := ((start.zip target).takeWhile fun (a, b) => a == b).length
  let up := List.replicate (start.length - shared) ".."
  let pieces := up ++ (target.drop shared).map Octets.ofText
  if pieces.isEmpty then "." else "/".intercalate pieces

/-- Writes the places to which paths lead. -/
def realpath : Utility := fun arguments => do
  let grammar := Grammar.standard "realpath" "eLmPqsz"
    [("canonicalize-existing", "e"), ("canonicalize-missing", "m"), ("logical", "L"),
      ("physical", "P"), ("quiet", "q"), ("strip", "s"), ("no-symlinks", "s"), ("zero", "z"),
      ("relative-to:", "relative-to"), ("relative-base:", "relative-base")]
  let options ← grammar.take arguments
  Shell.finish 0
  if options.operands.isEmpty then grammar.missingOperand none
  let strictness : Strictness := if options.has "e" then .all
    else if options.has "m" then .nothing else .allButLast
  let ending := if options.has "z" then '\x00' else '\n'
  for path in options.operands do
    let session ← get
    let found : Except FileError Place :=
      if path = "" then .error .notFound
      else if options.has "s" then
        .ok (Path.pieces (Octets.toText (logicalPath (pathOf session.here) path)) |>.filter (· ≠ ""))
      else resolved session strictness path
    match found with
    | .ok place =>
      let start := (options.value? "relative-to").bind fun path =>
        (resolved session .nothing path).toOption
      let base := (options.value? "relative-base").bind fun path =>
        (resolved session .nothing path).toOption
      let shown := match start, base with
        | some start, none => relativePath start place
        | none, some base =>
          if base.isPrefixOf place then relativePath base place else pathOf place
        | some start, some base =>
          if base.isPrefixOf place && base.isPrefixOf start then relativePath start place
          else pathOf place
        | none, none => pathOf place
      Shell.put (shown ++ String.singleton ending)
    | .error cause =>
      if !options.has "q" then
        report "realpath" ((if path = "" then "\x27\x27" else quotedName path) ++ ": " ++ cause.summary)
      Shell.finish 1

/-- Writes the targets of symbolic links, or the places to which paths lead. -/
def readlink : Utility := fun arguments => do
  let grammar := Grammar.standard "readlink" "efmnqsvz"
    [("canonicalize", "f"), ("canonicalize-existing", "e"), ("canonicalize-missing", "m"),
      ("no-newline", "n"), ("quiet", "q"), ("silent", "q"), ("verbose", "v"), ("zero", "z")]
  let options ← grammar.take arguments
  Shell.finish 0
  if options.operands.isEmpty then grammar.missingOperand none
  let ending := if options.has "z" then "\x00"
    else if options.has "n" && options.operands.length = 1 then "" else "\n"
  for path in options.operands do
    let session ← get
    let found : Option String := match options.last? ["e", "f", "m"] with
      | some kind =>
        let strictness : Strictness := match kind with
          | "e" => .all
          | "m" => .nothing
          | _ => .allButLast
        (resolved session strictness path).toOption.map pathOf
      | none =>
        match session.nodeNamed? path with
        | some (.link target) => some (Octets.ofText target)
        | _ => none
    match found with
    | some text => Shell.put (text ++ ending)
    | none =>
      if options.has "v" then report "readlink" (quotedName path ++ ": Invalid argument")
      Shell.finish 1

/-- The programs for names. -/
def nameTable : List (String × Program) :=
  [("basename", alone basename), ("dirname", alone dirname), ("realpath", alone realpath),
    ("readlink", alone readlink)]

end Compositor.Script.Programs
