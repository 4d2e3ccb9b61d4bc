import Compositor.Simulation.Script.Calendar
import Compositor.Simulation.Script.Mode
import Compositor.Simulation.Script.Programs.Names
import Compositor.Simulation.Script.Programs.Sorting

set_option autoImplicit false

/-!
# Listing files

## Main definitions

* `Script.Programs.Entity` — a file or directory with the name by which it is shown.
* `Script.Programs.columnsOf` — lays names out in columns.
* `Script.Programs.Listing` — what is shown of files, and in which order.
* `Script.Programs.ls` — lists files and what is in directories.
-/

namespace Compositor.Script.Programs

/-! ## Files and directories -/

/-- A file or directory with the name by which it is shown. -/
structure Entity where
  /-- The name. -/
  name : String
  /-- The place. -/
  place : Place
  /-- The number. -/
  number : Nat
  /-- What it is. -/
  inode : Inode

/-- What stands where a path leads, or at the place that it names. -/
def Entity.ofPath (session : Session) (follows : Bool) (path : String) :
    Except FileError Entity :=
  match if follows then session.locate path else session.locateName path with
  | .error cause => .error cause
  | .ok place =>
    match (session.files.number? place).bind fun number =>
        (session.files.inode? number).map (number, ·) with
    | some (number, inode) =>
      if path.endsWith "/" && !inode.node.isDirectory then .error .notADirectory
      else .ok ⟨path, place, number, inode⟩
    | none => .error .notFound

namespace Entity

/-- Whether it is a directory. -/
def isDirectory (entity : Entity) : Bool :=
  entity.inode.node.isDirectory

/-- Whether it is a file that can be run. -/
def isProgram (entity : Entity) : Bool :=
  match entity.inode.node with
  | .file _ => entity.inode.mode &&& 0x49 ≠ 0
  | _ => false

/-- The number of bytes in it. -/
def size (entity : Entity) : Nat :=
  match entity.inode.node with
  | .directory => 4096
  | .file content => content.size
  | .link target => (Octets.ofText target).length
  | _ => 0

/-- The number of blocks of 1024 bytes that it takes. -/
def blocks (entity : Entity) : Nat :=
  match entity.inode.node with
  | .directory => 4
  | .file content => (content.size + 4095) / 4096 * 4
  | _ => 0

/-- The number of names that it has. A directory has one in itself and one in each directory in
it. -/
def linkCount (files : FileTree) (entity : Entity) : Nat :=
  if entity.isDirectory then
    2 + ((files.namesIn entity.place).filter fun name =>
      (files.node? (entity.place ++ [name])).any Node.isDirectory).length
  else (files.names.filter fun entry => entry.2 = entity.number).length

/-- The letter for its kind. -/
def kindLetter (entity : Entity) : Char :=
  match entity.inode.node with
  | .directory => 'd'
  | .file _ => '-'
  | .link _ => 'l'
  | .pipe => 'p'
  | .device _ => 'c'

/-- Its kind and permissions. -/
def modeText (entity : Entity) : String :=
  String.singleton entity.kindLetter ++ Mode.text entity.inode.mode

/-- The time at which it was changed, in seconds. -/
def seconds (entity : Entity) : Nat :=
  entity.inode.time / 1000000

/-- The billionths of a second after that time. -/
def billionths (entity : Entity) : Nat :=
  entity.inode.time % 1000000 * 1000

/-- The time at which it was changed in some format. -/
def timeText (format : String) (entity : Entity) : String :=
  Calendar.formatted entity.seconds entity.billionths format

/-- Whether it is a directory or a symbolic link that leads to one. -/
def leadsToDirectory (session : Session) (entity : Entity) : Bool :=
  session.hasDirectory (pathOf entity.place)

/-- The mark of its kind. -/
def mark (entity : Entity) : String :=
  match entity.inode.node with
  | .directory => "/"
  | .link _ => "@"
  | .pipe => "|"
  | _ => if entity.isProgram then "*" else ""

end Entity

/-- A number of bytes in a few characters, rounded upwards. -/
def humanSize (base bytes : Nat) : String :=
  let unitOf (unit : Nat × String) : Bool := decide (bytes < Nat.pow base (unit.1 + 1))
  let units := [(0, ""), (1, if base = 1000 then "k" else "K"), (2, "M"), (3, "G"), (4, "T"),
    (5, "P"), (6, "E")]
  match units.find? unitOf with
  | none => toString bytes
  | some (0, _) => toString bytes
  | some (power, letter) =>
    let unit := Nat.pow base power
    let tenths := (bytes * 10 + unit - 1) / unit
    if tenths < 100 then toString (tenths / 10) ++ "." ++ toString (tenths % 10) ++ letter
    else toString ((bytes + unit - 1) / unit) ++ letter

/-! ## Layouts -/

/-- The number of columns between tab stops. -/
def tabWidth : Nat := 8

/-- What leads from one column to another one: tabs where they are shorter, and spaces. -/
def gapTo (target : Nat) : Nat → Nat → String
  | 0, _ => ""
  | fuel + 1, place =>
    if target ≤ place then ""
    else if (place + 1) / tabWidth < target / tabWidth then
      "\t" ++ gapTo target fuel (place + tabWidth - place % tabWidth)
    else " " ++ gapTo target fuel (place + 1)

/-- The widths of so many columns into which names are put, down or across. -/
def columnWidths (isAcross : Bool) (names : List String) (columns : Nat) : List Nat :=
  let rows := (names.length + columns - 1) / columns
  (List.range columns).map fun column =>
    let members := names.zipIdx.filter fun (_, n) =>
      (if isAcross then n % columns else n / rows) = column
    members.foldl (fun width (name, _) =>
      max width (name.length + if column + 1 = columns then 0 else 2)) 3

/-- Names in as many columns as a line can hold. -/
def columnsOf (isAcross : Bool) (lineWidth : Nat) (names : List String) : String :=
  let most := min names.length (max 1 ((lineWidth + 2) / 3))
  let fits (columns : Nat) : Bool :=
    decide ((columnWidths isAcross names columns).foldl (· + ·) 0 < lineWidth)
  let columns := (((List.range (most + 1)).reverse.filter (2 ≤ ·)).find? fits).getD 1
  let widths := columnWidths isAcross names columns
  let rows := (names.length + columns - 1) / columns
  let lines := (List.range rows).map fun row =>
    let members := (List.range columns).filterMap fun column =>
      let index := if isAcross then row * columns + column else column * rows + row
      (names[index]?).map (·, (widths[column]?).getD 0)
    let shown := members.zipIdx.foldl
      (fun (text, place) ((name, width), n) =>
        if n + 1 = members.length then (text ++ name, place)
        else
          let last := place + width
          (text ++ name ++ gapTo last (width + 1) (place + name.length), last))
      ("", 0)
    shown.1 ++ "\n"
  String.join lines

/-- Names with commas between them. -/
def commasBetween (lineWidth : Nat) (names : List String) : String :=
  let (text, _) := names.zipIdx.foldl
    (fun (text, place) (name, n) =>
      if n = 0 then (name, name.length)
      else if place + name.length + 2 < lineWidth then
        (text ++ ", " ++ name, place + name.length + 2)
      else (text ++ ",\n" ++ name, name.length))
    ("", 0)
  text ++ "\n"

/-! ## What is shown -/

/-- What is shown of files, and in which order. -/
structure Listing where
  /-- The options. -/
  options : Options
  /-- Whether the long form is used. -/
  isLong : Bool
  /-- How many columns a line has. -/
  lineWidth : Nat
  /-- How names are laid out: down, across, with commas, or each on its own line. -/
  layout : String
  /-- What the order depends on. -/
  order : String
  /-- The patterns of names that are passed over. -/
  ignored : List Pattern
  /-- The time, in microseconds. -/
  now : Nat
  /-- The character that ends lines. -/
  ending : String

namespace Listing

/-- Whether an option is given. -/
def has (listing : Listing) (name : String) : Bool :=
  listing.options.has name

/-- How two files are ordered. -/
def compares (listing : Listing) (a b : Entity) : Bool :=
  let byName := compare a.name b.name
  let extension (name : String) : String :=
    if name.contains '.' then "." ++ ((name.splitOn ".").getLast?.getD "") else ""
  let order : Ordering := match listing.order with
    | "t" => (compare b.inode.time a.inode.time).then byName
    | "S" => (compare b.size a.size).then byName
    | "X" => (compare (extension a.name) (extension b.name)).then byName
    | "v" => (versionOrder a.name b.name).then byName
    | _ => byName
  (if listing.has "r" then order.swap else order) != .gt

/-- Files in order. -/
def sorted (listing : Listing) (session : Session) (entities : List Entity) : List Entity :=
  let found := if listing.order = "U" then entities else entities.mergeSort listing.compares
  if listing.has "group" then
    (found.filter fun entity => entity.leadsToDirectory session) ++
      found.filter fun entity => !entity.leadsToDirectory session
  else found

/-- A name as it is shown. -/
def nameText (listing : Listing) (name : String) : String :=
  let escaped (isQuoted : Bool) : String := String.join (name.toList.map fun c =>
    match [('\n', "\\n"), ('\t', "\\t"), ('\\', "\\\\"), ('\x07', "\\a"), ('\x08', "\\b"),
      ('\x0b', "\\v"), ('\x0c', "\\f"), ('\x0d', "\\r")].lookup c with
    | some text => text
    | none =>
      if isQuoted && c = '"' then "\\\""
      else if !isQuoted && c = ' ' then "\\ "
      else if c.toNat < 32 || 126 < c.toNat then "\\" ++ Mode.octal 3 c.toNat
      else String.singleton c)
  match listing.options.last? ["Q", "b", "N"] with
  | some "Q" => "\"" ++ escaped true ++ "\""
  | some "b" => escaped false
  | _ =>
    if listing.has "q" then
      name.map fun c => if c.toNat < 32 || 126 < c.toNat then '?' else c
    else name

/-- A number of blocks. -/
def blockText (listing : Listing) (blocks : Nat) : String :=
  if listing.has "h" then humanSize 1024 (blocks * 1024) else toString blocks

/-- The number of a file and of its blocks, each filled up to a width. -/
def frontText (listing : Listing) (numberWidth blockWidth : Nat) (entity : Entity) : String :=
  (if listing.has "i" then padded numberWidth entity.number ++ " " else "") ++
    (if listing.has "s" then rightAligned blockWidth (listing.blockText entity.blocks) ++ " "
    else "")

/-- The mark after a name. -/
def markText (listing : Listing) (entity : Entity) : String :=
  match listing.options.last? ["F", "p", "file-type"] with
  | some "F" => if listing.isLong && entity.kindLetter = 'l' then "" else entity.mark
  | some "p" => if entity.isDirectory then "/" else ""
  | some _ =>
    if entity.isProgram || (listing.isLong && entity.kindLetter = 'l') then "" else entity.mark
  | none => ""

/-- The number of bytes in a file. -/
def sizeText (listing : Listing) (entity : Entity) : String :=
  if listing.has "si" then humanSize 1000 entity.size
  else if listing.has "h" then humanSize 1024 entity.size
  else toString entity.size

/-- The time of a file. -/
def timeText (listing : Listing) (entity : Entity) : String :=
  let style := if listing.has "full-time" then "full-iso"
    else (listing.options.value? "time-style").getD "locale"
  let age := (listing.now / 1000000 : Int) - entity.seconds
  let isRecent := 0 ≤ age && age < 15778476
  entity.timeText <| match style with
    | "full-iso" => "%Y-%m-%d %H:%M:%S.%N %z"
    | "long-iso" => "%Y-%m-%d %H:%M"
    | "iso" => if isRecent then "%m-%d %H:%M" else "%Y-%m-%d "
    | _ =>
      if style.startsWith "+" then dropFront 1 style
      else if isRecent then "%b %e %H:%M" else "%b %e  %Y"

/-- The greatest length of some texts. -/
def widest (texts : List String) : Nat :=
  texts.foldl (fun width text => max width text.length) 0

/-- The lines of the long form. -/
def longLines (listing : Listing) (session : Session) (numberWidth blockWidth : Nat)
    (entities : List Entity) : List String :=
  let links := entities.map fun entity => toString (entity.linkCount session.files)
  let sizes := entities.map listing.sizeText
  let owner := if listing.has "n" then "0" else "root"
  let owners := (if listing.has "g" then "" else owner ++ " ") ++
    (if listing.has "o" || listing.has "G" then "" else owner ++ " ") ++
    (if listing.has "author" then "root " else "")
  (entities.zip (links.zip sizes)).map fun (entity, links', size) =>
    let target := match entity.inode.node with
      | .link target => " -> " ++ listing.nameText (Octets.ofText target) ++
        (match Entity.ofPath session true (pathOf entity.place) with
        | .ok other => if listing.has "F" || listing.has "p" then other.mark else ""
        | .error _ => "")
      | _ => ""
    listing.frontText numberWidth blockWidth entity ++ entity.modeText ++ " " ++
      rightAligned (widest links) links' ++ " " ++ owners ++
      rightAligned (widest sizes) size ++ " " ++ listing.timeText entity ++ " " ++
      listing.nameText entity.name ++ target ++ listing.markText entity

/-- Files as they are shown. -/
def shown (listing : Listing) (session : Session) (entities : List Entity) : String :=
  let numberWidth := widest (entities.map fun entity => toString entity.number)
  let blockWidth := widest (entities.map fun entity => listing.blockText entity.blocks)
  if entities.isEmpty then ""
  else if listing.isLong then
    String.join ((listing.longLines session numberWidth blockWidth entities).map
      (· ++ listing.ending))
  else
    let isAlone := listing.layout = "1"
    let names := entities.map fun entity =>
      listing.frontText (if isAlone || listing.layout ≠ "m" then numberWidth else 0)
          (if listing.layout ≠ "m" then blockWidth else 0) entity ++
        listing.nameText entity.name ++ listing.markText entity
    match listing.layout with
    | "C" => columnsOf false listing.lineWidth names
    | "x" => columnsOf true listing.lineWidth names
    | "m" => commasBetween listing.lineWidth names
    | _ => String.join (names.map (· ++ listing.ending))

/-- What is in a directory. -/
def members (listing : Listing) (session : Session) (place : Place) : List Entity :=
  let all := listing.has "a" || listing.has "f"
  let names := (session.files.namesIn place).filter fun name =>
    let shown := Octets.ofText name
    all || ((listing.has "A" || !shown.startsWith ".") &&
      !listing.ignored.any fun pattern => pattern.fits shown.toList)
  let named := names.filterMap fun name =>
    let there := place ++ [name]
    let follows := listing.has "L"
    let reached := if follows then (session.locate (pathOf there)).toOption else none
    let target := reached.bind session.files.number?
    (target.or (session.files.number? there)).bind fun number =>
      (session.files.inode? number).map fun inode =>
        (⟨Octets.ofText name, there, number, inode⟩ : Entity)
  let around := if !all then []
    else [(".", place), ("..", place.dropLast)].filterMap fun (name, place) =>
      (session.files.number? place).bind fun number =>
        (session.files.inode? number).map fun inode => (⟨name, place, number, inode⟩ : Entity)
  listing.sorted session (around ++ named)

/-- A directory as it is shown, and those in it, as far as the fuel goes. The first text of all has
no empty line before it. -/
def directoryText (listing : Listing) (session : Session) (isTitled : Bool) :
    Nat → Bool → String → Place → String
  | 0, _, _, _ => ""
  | fuel + 1, isFirst, path, place =>
    let members := listing.members session place
    let title := if isTitled then
        (if isFirst then "" else "\n") ++ listing.nameText path ++ ":\n"
      else ""
    let total := (members.map Entity.blocks).foldl (· + ·) 0
    let summary := if listing.isLong || listing.has "s" then
        "total " ++ listing.blockText total ++ listing.ending
      else ""
    let below := if !listing.has "R" then []
      else members.filter fun entity =>
        entity.isDirectory && entity.name ≠ "." && entity.name ≠ ".."
    title ++ summary ++ listing.shown session members ++
      String.join (below.map fun entity =>
        listing.directoryText session isTitled fuel false (inDirectory path entity.name)
          entity.place)

end Listing

/-- The options of the listing of files. -/
def listGrammar : Grammar :=
  Grammar.standard "ls" "aAbBcCdfFgGhHiI:klLmnNopqQrRsStT:uUvw:xXZ1"
      [("all", "a"), ("almost-all", "A"), ("author", "author"), ("escape", "b"),
        ("ignore-backups", "B"), ("color::", "color"), ("directory", "d"), ("classify::", "F"),
        ("file-type", "file-type"), ("format:", "format"), ("full-time", "full-time"),
        ("group-directories-first", "group"), ("no-group", "G"), ("human-readable", "h"),
        ("si", "si"), ("dereference-command-line", "H"), ("hide:", "hide"), ("inode", "i"),
        ("ignore:", "I"), ("kibibytes", "k"), ("dereference", "L"), ("numeric-uid-gid", "n"),
        ("literal", "N"), ("indicator-style:", "indicator"), ("hide-control-chars", "q"),
        ("show-control-chars", "show"), ("quote-name", "Q"), ("quoting-style:", "quoting"),
        ("reverse", "r"), ("recursive", "R"), ("size", "s"), ("sort:", "sort"), ("time:", "time"),
        ("time-style:", "time-style"), ("tabsize:", "T"), ("width:", "w"), ("zero", "zero")]
    |>.failingWith 2

/-- Lists files and what is in directories. -/
def ls : Utility := fun arguments => do
  let options ← listGrammar.take arguments
  let session ← get
  let layout := match options.last? ["C", "x", "m", "1", "l", "g", "n", "o", "format", "zero"] with
    | some "format" =>
      match (options.value? "format").getD "" with
      | "commas" => "m"
      | "across" | "horizontal" => "x"
      | "vertical" => "C"
      | "long" | "verbose" => "l"
      | _ => "1"
    | some "g" | some "n" | some "o" => "l"
    | some "zero" => if options.has "l" then "l" else "1"
    | some "1" => if ["l", "g", "n", "o"].any options.has then "l" else "1"
    | some name => name
    | none => if options.has "full-time" then "l" else "1"
  let order := match options.last? ["t", "S", "X", "v", "U", "f", "sort"] with
    | some "f" => "U"
    | some "sort" =>
      match (options.value? "sort").getD "" with
      | "time" => "t"
      | "size" => "S"
      | "extension" => "X"
      | "version" => "v"
      | "none" => "U"
      | _ => "name"
    | some name => name
    | none => "name"
  let hidden := if options.has "a" || options.has "A" then [] else options.values "hide"
  let ignored := (options.values "I" ++ hidden ++ if options.has "B" then ["*~"] else []).map
    fun text => Pattern.ofMarked (text.toList.map (·, true))
  let listing : Listing :=
    { options := options
      isLong := layout = "l"
      lineWidth := ((options.value? "w").bind String.toNat?).getD 80
      layout := layout
      order := order
      ignored := ignored
      now := session.time
      ending := if options.has "zero" then "\x00" else "\n" }
  Shell.finish 0
  let paths := if options.operands.isEmpty then ["."] else options.operands
  let isFlat := options.has "d"
  let leaves := listing.isLong || isFlat || options.has "F"
  let mut found : List Entity := []
  for path in paths do
    let follows := options.has "L" || options.has "H" || !leaves
    let first := Entity.ofPath session follows path
    let entity := match first with
      | .ok _ => first
      | .error _ => if options.has "L" then first else Entity.ofPath session false path
    match entity with
    | .ok entity => found := found ++ [entity]
    | .error cause =>
      report "ls" ("cannot access " ++ inQuotes path ++ ": " ++ cause.summary)
      Shell.finish 2
  let isInside (entity : Entity) : Bool := entity.isDirectory && !isFlat
  let files := listing.sorted session (found.filter fun entity => !isInside entity)
  let directories := listing.sorted session (found.filter isInside)
  let isTitled := 1 < paths.length || options.has "R"
  let fuel := session.files.names.length + 2
  let fileText := listing.shown session files
  let texts := directories.zipIdx.map fun (entity, n) =>
    let place := (session.locate entity.name).toOption.getD entity.place
    listing.directoryText session isTitled fuel (n = 0 && files.isEmpty) entity.name place
  Shell.put (fileText ++ String.join texts)

end Compositor.Script.Programs
