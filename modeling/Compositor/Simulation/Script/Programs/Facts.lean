import Compositor.Simulation.Script.Escapes
import Compositor.Simulation.Script.Programs.Listing

set_option autoImplicit false

/-!
# Facts about files

## Main definitions

* `Script.Programs.fact` — a fact about a file by its letter.
* `Script.Programs.stat` — tells facts about files.
* `Script.Programs.du` — tells how much room files take.
-/

namespace Compositor.Script.Programs

/-! ## Facts -/

/-- The kind of a file in words. -/
def kindText (entity : Entity) : String :=
  match entity.inode.node with
  | .directory => "directory"
  | .file content => if content.size = 0 then "regular empty file" else "regular file"
  | .link _ => "symbolic link"
  | .pipe => "fifo"
  | .device _ => "character special file"

/-- The number that stands for the kind and the permissions of a file. -/
def modeNumber (entity : Entity) : Nat :=
  entity.inode.mode + match entity.inode.node with
    | .directory => 0x4000
    | .file _ => 0x8000
    | .link _ => 0xa000
    | .pipe => 0x1000
    | .device _ => 0x2000

/-- A number in hexadecimal digits. -/
def hexadecimal (n : Nat) : String :=
  String.ofList (Nat.toDigits 16 n)

/-- A name in quotes, with the path to which it leads. -/
def withTarget (entity : Entity) : String :=
  inQuotes entity.name ++ match entity.inode.node with
    | .link target => " -> " ++ inQuotes (Octets.ofText target)
    | _ => ""

/-- A fact about a file by its letter. -/
def fact (files : FileTree) (entity : Entity) (letter : Char) : Option String :=
  match letter with
  | 'n' => some entity.name
  | 'N' => some (withTarget entity)
  | 's' => some (toString entity.size)
  | 'F' => some (kindText entity)
  | 'a' => some (String.ofList (Nat.toDigits 8 entity.inode.mode))
  | 'A' => some entity.modeText
  | 'u' | 'g' | 't' | 'T' | 'r' | 'R' => some "0"
  | 'U' | 'G' => some "root"
  | 'h' => some (toString (entity.linkCount files))
  | 'i' => some (toString entity.number)
  | 'b' => some (toString (entity.blocks * 2))
  | 'B' => some "512"
  | 'o' => some "4096"
  | 'd' => some "65024"
  | 'D' => some "fe00"
  | 'f' => some (hexadecimal (modeNumber entity))
  | 'm' => some "/"
  | 'C' => some "?"
  | 'x' | 'y' | 'z' | 'w' => some (entity.timeText "%Y-%m-%d %H:%M:%S.%N %z")
  | 'X' | 'Y' | 'Z' | 'W' => some (toString entity.seconds)
  | _ => none

/-- A fact in its place of a format: filled up to a width, and not longer than allowed. -/
def placed (flags : List Char) (width : Nat) (most : Option Nat) (letter : Char) (text : String) :
    String :=
  let isNumber := !(['n', 'N', 'F', 'A', 'U', 'G', 'm', 'x', 'y', 'z', 'w'].contains letter)
  let cut := match most with
    | some n => if isNumber then text else slice text 0 n
    | none => text
  let marked := if flags.contains '#' && letter = 'a' then "0" ++ cut else cut
  if flags.contains '-' then leftAligned width marked
  else if flags.contains '0' && isNumber then
    String.ofList (List.replicate (width - marked.length) '0') ++ marked
  else rightAligned width marked

/-- Facts by a format, as far as the fuel goes, or the part of it that is no format. -/
def factsUpTo (files : FileTree) (entity : Entity) (hasEscapes : Bool) :
    Nat → List Char → Except String String
  | 0, _ => .ok ""
  | _, [] => .ok ""
  | fuel + 1, '%' :: rest =>
    let flags := rest.takeWhile ['-', '+', '0', '#', ' ', '\x27'].contains
    let body := rest.drop flags.length
    let width := body.takeWhile Char.isDigit
    let body := body.drop width.length
    let (most, body) := match body with
      | '.' :: after =>
        let digits := after.takeWhile Char.isDigit
        (some (ofDigits 10 digits), after.drop digits.length)
      | _ => (none, body)
    match body with
    | [] =>
      if rest.isEmpty then .ok "%" else .error (String.ofList ('%' :: rest))
    | '%' :: body =>
      (factsUpTo files entity hasEscapes fuel body).map ("%" ++ ·)
    | c :: body =>
      let shown := match fact files entity c with
        | some text => placed flags (ofDigits 10 width) most c text
        | none => "?"
      (factsUpTo files entity hasEscapes fuel body).map (shown ++ ·)
  | fuel + 1, '\\' :: rest =>
    if hasEscapes then
      let (c, rest) := escape rest
      (factsUpTo files entity hasEscapes fuel rest).map (String.singleton c ++ ·)
    else (factsUpTo files entity hasEscapes fuel rest).map ("\\" ++ ·)
  | fuel + 1, c :: rest =>
    (factsUpTo files entity hasEscapes fuel rest).map (String.singleton c ++ ·)

/-- All that is told about a file where no format is given. -/
def allFacts : String :=
  "  File: %n\n  Size: %-10s\tBlocks: %-10b IO Block: %-6o %F\nDevice: 254,0\tInode: %-11i Links: " ++
    "%h\nAccess: (%04a/%10A)  Uid: (%5u/%8U)   Gid: (%5g/%8G)\nAccess: %x\nModify: %y\nChange: " ++
    "%z\n Birth: %w\n"

/-- Tells facts about files. -/
def stat : Utility := fun arguments => do
  let grammar := Grammar.standard "stat" "c:Lft"
    [("format:", "c"), ("printf:", "printf"), ("dereference", "L"), ("file-system", "f"),
      ("terse", "t"), ("cached:", "cached")]
  let options ← grammar.take arguments
  Shell.finish 0
  if options.operands.isEmpty then grammar.missingOperand none
  for path in options.operands do
    let session ← get
    match Entity.ofPath session (options.has "L") path with
    | .error cause =>
      report "stat" ("cannot statx " ++ inQuotes path ++ ": " ++ cause.summary)
      Shell.finish 1
    | .ok entity =>
      let (format, hasEscapes) := match options.last? ["c", "printf"], options.has "t" with
        | some "c", _ => ((options.value? "c").getD "", false)
        | some name, _ => ((options.value? name).getD "", true)
        | none, true => ("%n %s %b %f %u %g %D %i %h %t %T %X %Y %Z %W %o\n", false)
        | none, false =>
          match entity.inode.node with
          | .link target =>
            (allFacts.replace "%n\n" ("%n -> " ++ Octets.ofText target ++ "\n"), false)
          | _ => (allFacts, false)
      match factsUpTo session.files entity hasEscapes (format.length + 1) format.toList with
      | .ok text => Shell.put (if options.has "c" && !hasEscapes then text ++ "\n" else text)
      | .error bad =>
        quit "stat" 1 (inQuotes bad ++ ": invalid directive")

/-! ## Room -/

/-- How the room that files take is told. -/
structure Measuring where
  /-- The options. -/
  options : Options
  /-- How deep directories are told. -/
  depth : Option Nat
  /-- The patterns of names that are passed over. -/
  excluded : List Pattern

/-- A part of the room that is told: its path, how deep it lies, whether it is a directory, and its
size. -/
structure Share where
  /-- The path. -/
  path : String
  /-- How deep it lies. -/
  depth : Nat
  /-- Whether it is a directory. -/
  isDirectory : Bool
  /-- The size. -/
  size : Nat

/-- The size of a file by itself. -/
def Measuring.sizeOf (measuring : Measuring) (entity : Entity) : Nat :=
  if measuring.options.has "inodes" then 1
  else if measuring.options.has "b" || measuring.options.has "apparent" then
    (if entity.isDirectory then 0 else entity.size)
  else entity.blocks * 1024

/-- The room that is taken at and below a path, with the files that have been counted, as far as the
fuel goes. -/
def Measuring.sharesOf (measuring : Measuring) (session : Session) :
    Nat → Nat → List Nat → Entity → List Share × Nat × List Nat
  | 0, _, counted, _ => ([], 0, counted)
  | fuel + 1, depth, counted, entity =>
    if counted.contains entity.number then ([], 0, counted)
    else
      let isShared := !entity.isDirectory && !measuring.options.has "l" &&
        (1 < entity.linkCount session.files || 1 < measuring.options.operands.length)
      let counted := if isShared || entity.isDirectory then entity.number :: counted else counted
      let names := if entity.isDirectory then session.files.namesIn entity.place else []
      let own := measuring.sizeOf entity
      let (shares, below, direct, counted) := names.foldl
        (fun (shares, below, direct, counted) name =>
          let path := inDirectory entity.name (Octets.ofText name)
          let isExcluded := measuring.excluded.any fun pattern =>
            pattern.fits (Octets.ofText name).toList || pattern.fits path.toList
          match if isExcluded then Except.error FileError.notFound
            else Entity.ofPath session (measuring.options.has "L") path with
          | .ok member =>
            let (more, size, counted) := measuring.sharesOf session fuel (depth + 1) counted member
            (shares ++ more, below + size, direct + (if member.isDirectory then 0 else size),
              counted)
          | .error _ => (shares, below, direct, counted))
        ([], 0, 0, counted)
      let told := own + if measuring.options.has "S" then direct else below
      (shares ++ [⟨entity.name, depth, entity.isDirectory, told⟩], own + below, counted)

/-- A size as it is told. -/
def Measuring.sizeText (measuring : Measuring) (size : Nat) : String :=
  let options := measuring.options
  match options.last? ["h", "si", "k", "m", "B", "b"] with
  | some "h" => humanSize 1024 size
  | some "si" => humanSize 1000 size
  | some "m" => toString ((size + 1048575) / 1048576)
  | some "b" => toString size
  | some "B" =>
    let unit := ((options.value? "B").bind multiple?).getD 1024
    toString ((size + unit - 1) / max 1 unit)
  | _ => if options.has "inodes" then toString size else toString ((size + 1023) / 1024)

/-- Tells how much room files take. -/
def du : Utility := fun arguments => do
  let grammar := Grammar.standard "du" "abB:cd:DHhklLmPsSt:x0X:"
    [("all", "a"), ("apparent-size", "apparent"), ("bytes", "b"), ("block-size:", "B"),
      ("total", "c"), ("max-depth:", "d"), ("dereference-args", "D"), ("human-readable", "h"),
      ("inodes", "inodes"), ("count-links", "l"), ("dereference", "L"), ("no-dereference", "P"),
      ("summarize", "s"), ("separate-dirs", "S"), ("si", "si"), ("threshold:", "t"),
      ("one-file-system", "x"), ("null", "0"), ("exclude:", "exclude"), ("time::", "time")]
  let options ← grammar.take arguments
  let session ← get
  Shell.finish 0
  let depth ← match options.value? "d" with
    | none => pure none
    | some text =>
      match text.toNat? with
      | some n => pure (some n)
      | none => grammar.misuse ("invalid maximum depth " ++ inQuotes text)
  if options.has "s" && options.has "a" then
    grammar.misuse "cannot both summarize and show all entries"
  let measuring : Measuring :=
    { options := options
      depth := if options.has "s" then some 0 else depth
      excluded := (options.values "exclude").map fun text => .ofMarked (text.toList.map (·, true)) }
  let ending := if options.has "0" then "\x00" else "\n"
  let least := ((options.value? "t").bind multiple?).getD 0
  let fuel := session.files.names.length + 2
  let mut counted : List Nat := []
  let mut total := 0
  let mut text := ""
  for path in if options.operands.isEmpty then ["."] else options.operands do
    let follows := options.has "L" || options.has "D" || options.has "H"
    match Entity.ofPath session follows path with
    | .error cause =>
      report "du" ("cannot access " ++ inQuotes path ++ ": " ++ cause.summary)
      Shell.finish 1
    | .ok entity =>
      let place := (session.locate path).toOption.getD entity.place
      let start := if follows then { entity with place := place } else entity
      let (shares, size, all) := measuring.sharesOf session fuel 0 counted start
      counted := all
      total := total + size
      for share in shares do
        let isTold := (share.isDirectory || options.has "a" || share.depth = 0) &&
          !measuring.depth.any (· < share.depth) && least ≤ share.size
        if isTold then
          text := text ++ measuring.sizeText share.size ++ "\t" ++ share.path ++ ending
  if options.has "c" then text := text ++ measuring.sizeText total ++ "\ttotal" ++ ending
  Shell.put text

end Compositor.Script.Programs
