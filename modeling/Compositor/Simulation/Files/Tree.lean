import Compositor.Host.Path
import Compositor.Simulation.Files.Error
import Compositor.Text.Characters

set_option autoImplicit false

/-!
# Files and directories

The files of a simulated machine form a tree. A path is followed piece by piece: each step starts
from a directory, a step upwards leads to the directory above the one that was really reached, and
a symbolic link leads where its own path does. A file has a number; several names may share it.

## Main definitions

* `Place` — the names that lead from the root to a file or directory.
* `Node`, `Inode` — what can stand at a place, with its mode and time.
* `FileTree` — what stands at each place.
* `FileTree.locate`, `FileTree.locateName` — where a path leads.
* `FileTree.readText` — the text of a file.
* `FileTree.namesIn` — what stands in a directory.
* `FileTree.put`, `FileTree.attach`, `FileTree.move`, `FileTree.remove` — changes.
* `FileTree.makeDirectory`, `FileTree.makeDirectories` — makes a directory, the second with all
  those above it.
* `FileTree.standard` — the files of a machine that has not been used yet: some directories,
  devices, lists of its users and groups, and a shell.
-/

namespace Compositor

/-- What can stand at a place. -/
inductive Node where
  /-- A directory. -/
  | directory
  /-- A file. -/
  | file (content : ByteArray)
  /-- A symbolic link to a path. -/
  | link (target : String)
  /-- A pipe with a name. -/
  | pipe
  /-- A device with a name. -/
  | device (name : String)

/-- Whether something is a directory. -/
def Node.isDirectory : Node → Bool
  | directory => true
  | _ => false

/-- What a number stands for. -/
structure Inode where
  /-- What it is. -/
  node : Node
  /-- What may be done with it, as nine bits. -/
  mode : Nat
  /-- When it was changed last. -/
  time : Nat

/-- The names that lead from the root to a file or directory. -/
abbrev Place := List String

/-- The path of a place. -/
def Place.path (place : Place) : String :=
  "/" ++ "/".intercalate place

/-- Files and directories by their places. The root is always a directory. -/
structure FileTree where
  /-- The numbers of what stands at the places other than the root. -/
  names : List (Place × Nat)
  /-- What the numbers stand for. -/
  inodes : List (Nat × Inode)
  /-- The next number. -/
  next : Nat

namespace FileTree

/-- The tree that has nothing but the root, whose number is zero. -/
def empty : FileTree := ⟨[], [], 1⟩

/-! ## What is there -/

/-- The number of what stands at a place. -/
def number? (tree : FileTree) (place : Place) : Option Nat :=
  if place.isEmpty then some 0 else tree.names.lookup place

/-- What a number stands for. -/
def inode? (tree : FileTree) (number : Nat) : Option Inode :=
  if number = 0 then some ⟨.directory, 0x1ed, 0⟩ else tree.inodes.lookup number

/-- What stands at a place. -/
def node? (tree : FileTree) (place : Place) : Option Node :=
  if place.isEmpty then some .directory
  else ((tree.names.lookup place).bind tree.inode?).map Inode.node

/-- Whether a directory stands at a place. -/
def hasDirectory (tree : FileTree) (place : Place) : Bool :=
  (tree.node? place).any Node.isDirectory

/-- Whether files and directories can be made in a directory. What tells about processes is the
system's own. -/
def takesNew (place : Place) : Bool :=
  place.head? != some "proc"

/-- The names of what stands at and below a place, with numbers. -/
def below (tree : FileTree) (place : Place) : List (Place × Nat) :=
  tree.names.filter fun entry => place.isPrefixOf entry.1

/-- The names of what stands in a directory, in the order of their texts. -/
def namesIn (tree : FileTree) (place : Place) : List String :=
  let names := tree.names.filterMap fun entry =>
    if entry.1.dropLast = place then entry.1.getLast? else none
  names.mergeSort fun a b => decide (a ≤ b)

/-- The paths of the directories below a place, in the order of their texts. -/
def directoriesBelow (tree : FileTree) (place : Place) : List String :=
  let below := (tree.below place).filterMap fun entry =>
    if entry.1 ≠ place && (tree.inode? entry.2).any (·.node.isDirectory) then
      some (Place.path entry.1)
    else none
  below.mergeSort fun a b => decide (a ≤ b)

/-! ## Changes -/

/-- Changes what a number stands for. -/
def change (tree : FileTree) (number : Nat) (update : Inode → Inode) : FileTree :=
  { tree with
    inodes := tree.inodes.map fun entry =>
      if entry.1 = number then (number, update entry.2) else entry }

/-- Takes a name away. -/
def remove (tree : FileTree) (place : Place) : FileTree :=
  { tree with names := tree.names.filter fun entry => entry.1 ≠ place }

/-- Takes away the names of what stands at and below a place. -/
def removeAll (tree : FileTree) (place : Place) : FileTree :=
  { tree with names := tree.names.filter fun entry => !place.isPrefixOf entry.1 }

/-- Gives a name to what a number stands for. -/
def attach (tree : FileTree) (place : Place) (number : Nat) : FileTree :=
  let others := tree.remove place
  { others with names := others.names ++ [(place, number)] }

/-- Puts something new at a place. -/
def add (tree : FileTree) (place : Place) (inode : Inode) : FileTree :=
  let numbered := { tree with
    inodes := tree.inodes ++ [(tree.next, inode)]
    next := tree.next + 1 }
  numbered.attach place tree.next

/-- The mode of what nobody has given one. -/
def standardMode : Node → Nat
  | .directory => 0x1ed
  | .link _ => 0x1ff
  | _ => 0x1a4

/-- Puts a file or directory at a place. Other names of what stands there keep naming it. -/
def put (tree : FileTree) (place : Place) (node : Node) : FileTree :=
  match tree.names.lookup place with
  | some number => tree.change number fun inode => { inode with node := node }
  | none => tree.add place ⟨node, standardMode node, 0⟩

/-- Moves what stands at and below a place to another place, where nothing is left. -/
def move (tree : FileTree) (source target : Place) : FileTree :=
  let free := tree.removeAll target
  { free with
    names := free.names.map fun entry =>
      if source.isPrefixOf entry.1 then (target ++ entry.1.drop source.length, entry.2)
      else entry }

/-! ## Following paths -/

/-- The greatest number of bytes in a name. -/
def nameLimit : Nat := 255

/-- The number of bytes from which on a path is refused. -/
def pathLimit : Nat := 4096

/-- The greatest number of symbolic links on the way of a path. -/
def linkLimit : Nat := 40

/-- The place from which a path starts. -/
def origin (here : Place) (path : String) : Place :=
  if Path.isAbsolute path then [] else here

/-- Follows the pieces of a path from a place, through so many symbolic links. The last piece need
not lead to anything, and a symbolic link there may be left as it is. -/
def walk (tree : FileTree) (through : Bool) (links : Nat) (place : Place) (pieces : List String) :
    Except FileError Place :=
  match pieces with
  | [] => .ok place
  | piece :: rest =>
    match tree.node? place with
    | none => .error .notFound
    | some .directory =>
      if Path.isIdle piece then tree.walk through links place rest
      else if piece = ".." then tree.walk through links place.dropLast rest
      else if nameLimit < piece.utf8ByteSize then .error .nameTooLong
      else
        match tree.node? (place ++ [piece]) with
        | some (.link target) =>
          if rest.isEmpty && !through then .ok (place ++ [piece])
          else
            match links with
            | 0 => .error .tooManyLinks
            | left + 1 =>
              tree.walk through left (origin place target) (Path.pieces target ++ rest)
        | _ => tree.walk through links (place ++ [piece]) rest
    | some _ => .error .notADirectory
termination_by (links, pieces.length)

/-- Whether the system takes a path at all. -/
def accepts (path : String) : Except FileError Unit :=
  if hasNul path then .error .nulInPath
  else if path = "" then .error .notFound
  else if pathLimit ≤ path.utf8ByteSize then .error .nameTooLong
  else .ok ()

/-- The place to which a path leads from a working directory. -/
def locate (tree : FileTree) (here : Place) (path : String) : Except FileError Place :=
  match accepts path with
  | .error cause => .error cause
  | .ok () => tree.walk true linkLimit (origin here path) (Path.pieces path)

/-- The place that a path names; a symbolic link there is not followed. -/
def locateName (tree : FileTree) (here : Place) (path : String) : Except FileError Place :=
  match accepts path with
  | .error cause => .error cause
  | .ok () => tree.walk false linkLimit (origin here path) (Path.pieces path)

/-- The content of a file. -/
def read (tree : FileTree) (here : Place) (path : String) : Except FileError ByteArray :=
  match tree.locate here path with
  | .error cause => .error cause
  | .ok place =>
    match tree.node? place with
    | none => .error .notFound
    | some .directory => .error .isADirectory
    | some (.file content) => .ok content
    | some _ => .ok ByteArray.empty

/-- The text of a file. -/
def readText (tree : FileTree) (here : Place) (path : String) : Except FileError String :=
  match tree.read here path with
  | .error cause => .error cause
  | .ok content =>
    match String.fromUTF8? content with
    | some text => .ok text
    | none => .error .notText

/-! ## Making directories -/

/-- Makes a directory. The pieces of its path are given backwards; the directory above it must be
there, and nothing may stand at its own place. -/
def makeBelow (tree : FileTree) (start : Place) : List String → Except FileError FileTree
  | [] => .error .alreadyExists
  | name :: above =>
    match tree.walk true linkLimit start above.reverse with
    | .error cause => .error cause
    | .ok place =>
      match tree.node? place with
      | none => .error .notFound
      | some .directory =>
        if Path.isIdle name || name = ".." then .error .alreadyExists
        else if nameLimit < name.utf8ByteSize then .error .nameTooLong
        else if (tree.node? (place ++ [name])).isSome then .error .alreadyExists
        else if !takesNew place then .error .notFound
        else .ok (tree.put (place ++ [name]) .directory)
      | some _ => .error .notADirectory

/-- Passes over an error of making a directory if there is a directory at its path. -/
def unlessDirectory (tree : FileTree) (start : Place) (backward : List String)
    (cause : FileError) : Except FileError Unit :=
  match tree.walk true linkLimit start backward.reverse with
  | .ok place => if tree.hasDirectory place then .ok () else .error cause
  | .error _ => .error cause

/-- Makes a directory with all those above it. If one above it is missing, that one is made first
and the directory is tried again. What was made before an error stays. -/
def makeAllBelow (tree : FileTree) (start : Place) : List String → Except FileError Unit × FileTree
  | [] => (.ok (), tree)
  | name :: above =>
    match tree.makeBelow start (name :: above) with
    | .ok made => (.ok (), made)
    | .error .notFound =>
      match tree.makeAllBelow start above with
      | (.error cause, made) => (.error cause, made)
      | (.ok (), made) =>
        match made.makeBelow start (name :: above) with
        | .ok all => (.ok (), all)
        | .error cause => (made.unlessDirectory start (name :: above) cause, made)
    | .error cause => (tree.unlessDirectory start (name :: above) cause, tree)

/-- Makes a directory in one that exists. -/
def makeDirectory (tree : FileTree) (here : Place) (path : String) : Except FileError FileTree :=
  match accepts path with
  | .error cause => .error cause
  | .ok () => tree.makeBelow (origin here path) ((Path.pieces path).reverse.dropWhile (· = ""))

/-- Makes a directory with all those above it. It may exist already. -/
def makeDirectories (tree : FileTree) (here : Place) (path : String) :
    Except FileError Unit × FileTree :=
  match accepts path with
  | .error cause => (.error cause, tree)
  | .ok () =>
    tree.makeAllBelow (origin here path)
      ((Path.pieces path).filter fun piece => !Path.isIdle piece).reverse

end FileTree

/-! ## The files of a machine -/

/-- The users of a machine, each with a number, that of a group, a description, a directory and a
shell. -/
def standardUsers : List String :=
  ["root:x:0:0:root:/root:/bin/bash", "daemon:x:1:1:daemon:/usr/sbin:/usr/sbin/nologin",
   "bin:x:2:2:bin:/bin:/usr/sbin/nologin", "sys:x:3:3:sys:/dev:/usr/sbin/nologin",
   "sync:x:4:65534:sync:/bin:/bin/sync", "games:x:5:60:games:/usr/games:/usr/sbin/nologin",
   "man:x:6:12:man:/var/cache/man:/usr/sbin/nologin",
   "lp:x:7:7:lp:/var/spool/lpd:/usr/sbin/nologin", "mail:x:8:8:mail:/var/mail:/usr/sbin/nologin",
   "news:x:9:9:news:/var/spool/news:/usr/sbin/nologin",
   "uucp:x:10:10:uucp:/var/spool/uucp:/usr/sbin/nologin",
   "proxy:x:13:13:proxy:/bin:/usr/sbin/nologin",
   "www-data:x:33:33:www-data:/var/www:/usr/sbin/nologin",
   "backup:x:34:34:backup:/var/backups:/usr/sbin/nologin",
   "list:x:38:38:Mailing List Manager:/var/list:/usr/sbin/nologin",
   "irc:x:39:39:ircd:/run/ircd:/usr/sbin/nologin",
   "_apt:x:42:65534::/nonexistent:/usr/sbin/nologin",
   "nobody:x:65534:65534:nobody:/nonexistent:/usr/sbin/nologin"]

/-- The groups of a machine with their numbers. -/
def standardGroups : List (String × Nat) :=
  [("root", 0), ("daemon", 1), ("bin", 2), ("sys", 3), ("adm", 4), ("tty", 5), ("disk", 6),
   ("lp", 7), ("mail", 8), ("news", 9), ("uucp", 10), ("man", 12), ("proxy", 13), ("kmem", 15),
   ("dialout", 20), ("fax", 21), ("voice", 22), ("cdrom", 24), ("floppy", 25), ("tape", 26),
   ("sudo", 27), ("audio", 29), ("dip", 30), ("www-data", 33), ("backup", 34), ("operator", 37),
   ("list", 38), ("irc", 39), ("src", 40), ("shadow", 42), ("utmp", 43), ("video", 44),
   ("sasl", 45), ("plugdev", 46), ("staff", 50), ("games", 60), ("users", 100), ("nogroup", 65534)]

/-- Lines as the content of a file. -/
def Node.ofLines (lines : List String) : Node :=
  .file (String.join (lines.map (· ++ "\n"))).toUTF8

namespace FileTree

/-- The names of the directories at the root. -/
def standardDirectories : List String :=
  ["boot", "dev", "etc", "home", "media", "mnt", "opt", "proc", "root", "run", "srv", "sys", "tmp",
   "usr", "var"]

/-- The files of a machine that has not been used yet. -/
def standard : FileTree :=
  let directories : List Place := standardDirectories.map ([·]) ++
    [["usr", "bin"], ["usr", "lib"], ["usr", "sbin"], ["usr", "share"], ["var", "log"],
     ["var", "tmp"]]
  let devices : List (Place × Node) :=
    ["null", "zero", "full", "tty", "random", "urandom"].map fun name =>
      (["dev", name], .device name)
  let links : List (Place × Node) :=
    ["bin", "lib", "sbin"].map fun name => ([name], .link ("usr/" ++ name))
  let groups := standardGroups.map fun (name, number) =>
    name ++ ":x:" ++ toString number ++ ":"
  let lists : List (Place × Node) :=
    [(["etc", "passwd"], .ofLines standardUsers), (["etc", "group"], .ofLines groups),
     (["usr", "bin", "sh"], .file ⟨#[0x7f, 0x45, 0x4c, 0x46, 0x80]⟩)]
  let entries : List (Place × Node) :=
    directories.map (·, .directory) ++ devices ++ links ++ lists
  entries.foldl (fun tree entry => tree.put entry.1 entry.2) empty

end FileTree

end Compositor
