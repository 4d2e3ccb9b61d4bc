import Compositor.Simulation.Script.Calendar
import Compositor.Simulation.Script.Programs.Transfer

set_option autoImplicit false

/-!
# Programs that make, change and take away files

## Main definitions

* `Script.Programs.removeOne` — takes away what stands at a path.
* `Script.Programs.momentOf?` — the time that a text describes.
* `Script.Programs.makingTable` — the programs that make, change and take away files.
-/

namespace Compositor.Script.Programs

/-! ## Directories -/

/-- Sets the permissions of what stands at a path. -/
def setMode (path : String) (change : Bool → Nat → Nat → Nat) : Shell Unit :=
  modify fun session =>
    match session.inode? path with
    | some (number, inode) =>
      { session with
        files := session.files.change number fun old =>
          { old with mode := change inode.node.isDirectory session.mask old.mode } }
    | none => session

/-- Makes directories. -/
def mkdir : Utility := fun arguments => do
  let grammar := Grammar.standard "mkdir" "m:pvZ"
    [("mode:", "m"), ("parents", "p"), ("verbose", "v")]
  let options ← grammar.take arguments
  if options.operands.isEmpty then grammar.missingOperand none
  Shell.finish 0
  match options.value? "m" with
  | some text =>
    if (Mode.change? true 0 text 0x1ff).isNone then
      quit "mkdir" 1 ("invalid mode " ++ inQuotes text)
  | none => pure ()
  let make (path : String) : Shell (Option FileError) := do
    let session ← get
    match placeOf session false (withoutSlashes path) with
    | .error cause => return some cause
    | .ok place =>
      if (session.files.node? place).isSome then return some .alreadyExists
      else
        set (session.create place .directory)
        if options.has "v" then
          Shell.put ("mkdir: created directory " ++ inQuotes path ++ "\n")
        return none
  for path in options.operands do
    let wasThere := ((← get).node? path).isSome
    let failure ← if !options.has "p" then make path
      else
        (do
          let mut failure : Option FileError := none
          for above in pathsTo path do
            if failure.isNone && !(← get).hasDirectory above then failure ← make above
          if path = "" then failure := some .notFound
          return failure)
    match failure with
    | some cause =>
      report "mkdir" ("cannot create directory " ++ inQuotes path ++ ": " ++ cause.summary)
      Shell.finish 1
    | none =>
      match options.value? "m" with
      | some text =>
        if !wasThere then
          setMode path fun isDirectory mask _ =>
            (Mode.change? isDirectory mask text 0x1ff).getD 0x1ed
      | none => pure ()

/-- Why an empty directory cannot be taken away. -/
def emptyDirectory (session : Session) (path : String) : Except String Place :=
  match session.locateName (withoutSlashes path) with
  | .error cause => .error cause.summary
  | .ok place =>
    match session.files.node? place with
    | none => .error "No such file or directory"
    | some .directory =>
      if lastName path = "." then .error "Invalid argument"
      else if lastName path = ".." || !(session.files.namesIn place).isEmpty then
        .error "Directory not empty"
      else .ok place
    | some _ => .error "Not a directory"

/-- Takes away empty directories. -/
def rmdir : Utility := fun arguments => do
  let grammar := Grammar.standard "rmdir" "pv"
    [("parents", "p"), ("verbose", "v"), ("ignore-fail-on-non-empty", "ignore")]
  let options ← grammar.take arguments
  if options.operands.isEmpty then grammar.missingOperand none
  Shell.finish 0
  for path in options.operands do
    let all := if options.has "p" then (pathsTo path).reverse else [path]
    let mut goesOn := true
    for directory in all do
      if goesOn then
        if options.has "v" then
          Shell.put ("rmdir: removing directory, " ++ inQuotes directory ++ "\n")
        let session ← get
        match emptyDirectory session directory with
        | .ok place => set { session with files := session.files.remove place }
        | .error cause =>
          goesOn := false
          if !(options.has "ignore" && cause = "Directory not empty") then
            report "rmdir" ("failed to remove " ++ inQuotes directory ++ ": " ++ cause)
            Shell.finish 1

/-! ## Taking away -/

/-- Asks a question, and takes a line as the answer. -/
def isAgreed (question : String) : Shell Bool := do
  Shell.write 2 question
  let answer ← Shell.takeLine 0
  return answer.startsWith "y" || answer.startsWith "Y"

/-- The kind of what may be taken away. -/
def kindOfRemoved : Node → String
  | .file content => if content.size = 0 then "regular empty file" else "regular file"
  | .directory => "directory"
  | .link _ => "symbolic link"
  | .pipe => "fifo"
  | .device _ => "character special file"

/-- Takes away what stands at and below a place as far as somebody agrees and the fuel goes, and
returns whether nothing is left of it. -/
def removeAgreed (tells : Bool) : Nat → String → Place → Shell Bool
  | 0, _, _ => pure false
  | fuel + 1, path, place => do
    let session ← get
    match session.files.node? place with
    | none => return true
    | some node =>
      let names := if node.isDirectory then session.files.namesIn place else []
      let mut isFree := true
      if !names.isEmpty then
        if !(← isAgreed ("rm: descend into directory " ++ inQuotes path ++ "? ")) then return false
        for name in names do
          let below := inDirectory path (Octets.ofText name)
          if !(← removeAgreed tells fuel below (place ++ [name])) then isFree := false
      if !isFree then return false
      if !(← isAgreed ("rm: remove " ++ kindOfRemoved node ++ " " ++ inQuotes path ++ "? ")) then
        return false
      modify fun session => { session with files := session.files.removeAll place }
      if tells then
        Shell.put ((if node.isDirectory then "removed directory " else "removed ") ++
          inQuotes path ++ "\n")
      return true

/-- Takes away what stands at a path. -/
def removeOne (options : Options) (path : String) : Shell Unit := do
  let session ← get
  let deep := options.has "r" || options.has "R"
  let force := options.last? ["f", "i", "I"] == some "f"
  let failed (cause : String) : Shell Unit := do
    report "rm" ("cannot remove " ++ inQuotes path ++ ": " ++ cause)
    Shell.finish 1
  let name := lastName path
  if deep && (name = "." || name = "..") then
    report "rm" ("refusing to remove \x27.\x27 or \x27..\x27 directory: skipping " ++ inQuotes path)
    Shell.finish 1
  else
    match session.locateName (withoutSlashes path) with
    | .error cause =>
      if !(force && [FileError.notFound, .notADirectory].contains cause) then failed cause.summary
    | .ok place =>
      match session.files.node? place with
      | none => if !force then failed "No such file or directory"
      | some node =>
        if path.endsWith "/" && !node.isDirectory then failed "Not a directory"
        else if place.isEmpty then
          report "rm" "it is dangerous to operate recursively on \x27/\x27"
          Shell.finish 1
        else if node.isDirectory && !deep && !options.has "d" then failed "Is a directory"
        else if node.isDirectory && !deep && !(session.files.namesIn place).isEmpty then
          failed "Directory not empty"
        else if options.last? ["f", "i", "I"] == some "i" then
          let _ ← removeAgreed (options.has "v") 1000 path place
        else
          if options.has "v" then
            let shown := (subtree session.files place).reverse.map fun (below, _) =>
              let suffix := String.join ((below.drop place.length).map fun name =>
                "/" ++ Octets.ofText name)
              let isDirectory := (session.files.node? below).any Node.isDirectory
              (if isDirectory then "removed directory " else "removed ") ++
                inQuotes (path ++ suffix) ++ "\n"
            Shell.put (String.join shown)
          modify fun session => { session with files := session.files.removeAll place }

/-- Takes away files and directories. -/
def rm : Utility := fun arguments => do
  let grammar := Grammar.standard "rm" "dfirvIR"
    [("force", "f"), ("recursive", "r"), ("dir", "d"), ("verbose", "v"), ("interactive::", "i"),
      ("one-file-system", "one"), ("preserve-root::", "preserve"), ("no-preserve-root", "no")]
  let options ← grammar.take arguments
  if options.operands.isEmpty && !options.has "f" then grammar.missingOperand none
  Shell.finish 0
  let count := options.operands.length
  let deep := options.has "r" || options.has "R"
  let isAsked := options.last? ["f", "i", "I"] == some "I" && (deep || 3 < count)
  let question := "rm: remove " ++ toString count ++
    (if count = 1 then " argument" else " arguments") ++ (if deep then " recursively" else "") ++
    "? "
  if isAsked then
    if !(← isAgreed question) then return
  for path in options.operands do
    removeOne options path

/-- Takes a name of a file away. -/
def unlink : Utility := fun arguments => do
  match arguments with
  | [path] =>
    Shell.finish 0
    let session ← get
    match session.locateName path with
    | .error cause => quit "unlink" 1 ("cannot unlink " ++ inQuotes path ++ ": " ++ cause.summary)
    | .ok place =>
      match session.files.node? place with
      | none => quit "unlink" 1 ("cannot unlink " ++ inQuotes path ++ ": No such file or directory")
      | some .directory => quit "unlink" 1 ("cannot unlink " ++ inQuotes path ++ ": Is a directory")
      | some _ => set { session with files := session.files.remove place }
  | _ => (Grammar.standard "unlink" "" []).missingOperand none

/-! ## Times -/

/-- The time that a text describes, in seconds and billionths of a second. -/
def describedMoment? (session : Session) (text : String) : Option (Int × Nat) :=
  let now := session.toMachine.clock + Machine.epoch
  Calendar.ofText? (now / 1000000) (now % 1000000 * 1000) text

/-- The time, in microseconds, that a text describes. -/
def momentOf? (session : Session) (text : String) : Option Nat :=
  (describedMoment? session text).map fun (seconds, parts) =>
    (seconds * 1000000 + parts / 1000).toNat

/-- The time, in microseconds, that digits such as `202406011230.59` stand for. -/
def stampOf? (session : Session) (text : String) : Option Nat :=
  let (front, seconds) := match text.splitOn "." with
    | [front] => (front, "0")
    | front :: seconds :: _ => (front, seconds)
    | [] => ("", "0")
  let digits := front.toList
  let pair (n : Nat) : Nat := ofDigits 10 ((digits.drop n).take 2)
  let thisYear := (Calendar.ofSeconds ((Machine.epoch + session.clock) / 1000000 : Nat)).year
  let found : Option (Int × Nat) := match digits.length with
    | 8 => some (thisYear, 0)
    | 10 => some (if pair 0 < 69 then 2000 + pair 0 else 1900 + pair 0, 2)
    | 12 => some (ofDigits 10 (digits.take 4), 4)
    | _ => none
  if !digits.all Char.isDigit then none
  else found.map fun (year, n) =>
    (Calendar.seconds ⟨year, pair n, pair (n + 2), pair (n + 4), pair (n + 6),
      ofDigits 10 seconds.toList⟩ * 1000000).toNat

/-- Gives files a time, and makes those that are missing. -/
def touch : Utility := fun arguments => do
  let grammar := Grammar.standard "touch" "acd:fhmr:t:"
    [("no-create", "c"), ("date:", "d"), ("reference:", "r"), ("no-dereference", "h"),
      ("time:", "time")]
  let options ← grammar.take arguments
  if options.operands.isEmpty then grammar.misuse "missing file operand"
  Shell.finish 0
  let session ← get
  let time ← match options.value? "r", options.value? "t", options.value? "d" with
    | some path, _, _ =>
      match session.inode? path with
      | some (_, inode) => pure inode.time
      | none => quit "touch" 1 ("failed to get attributes of " ++ inQuotes path ++
          ": No such file or directory")
    | none, some text, _ =>
      match stampOf? session text with
      | some time => pure time
      | none => quit "touch" 1 ("invalid date format " ++ inQuotes text)
    | none, none, some text =>
      match momentOf? session text with
      | some time => pure time
      | none => quit "touch" 1 ("invalid date format " ++ inQuotes text)
    | none, none, none => pure session.time
  for path in options.operands do
    let session ← get
    let stamp (session : Session) (place : Place) : Session :=
      match session.files.number? place with
      | some number =>
        { session with
          files := session.files.change number fun inode => { inode with time := time } }
      | none => session
    let found := if options.has "h" then session.locateName path else session.locate path
    match found with
    | .error cause =>
      if !(options.has "c" && cause = .notFound) then
        report "touch" ("cannot touch " ++ inQuotes path ++ ": " ++ cause.summary)
        Shell.finish 1
    | .ok place =>
      if (session.files.node? place).isSome then
        if !options.has "a" || options.has "m" then set (stamp session place)
      else if !options.has "c" then
        match placeOf session true path with
        | .ok place =>
          if path.endsWith "/" then
            report "touch" ("setting times of " ++ inQuotes path ++ ": No such file or directory")
            Shell.finish 1
          else set (stamp (session.create place (.file ByteArray.empty)) place)
        | .error cause =>
          report "touch" ("cannot touch " ++ inQuotes path ++ ": " ++ cause.summary)
          Shell.finish 1

/-! ## Permissions -/

/-- Whether an argument is a change of permissions that takes some away. -/
def isReduction (argument : String) : Bool :=
  match argument.toList with
  | '-' :: c :: rest =>
    ['r', 'w', 'x', 'X', 's', 't', 'u', 'g', 'o'].contains c &&
      (c :: rest).all fun c =>
        ['r', 'w', 'x', 'X', 's', 't', 'u', 'g', 'o', 'a', ',', '=', '+', '-'].contains c
  | _ => false

/-- Changes the permissions of files. -/
def chmod : Utility := fun arguments => do
  let grammar := Grammar.standard "chmod" "Rcfv"
    [("recursive", "R"), ("changes", "c"), ("silent", "f"), ("quiet", "f"), ("verbose", "v"),
      ("reference:", "reference"), ("preserve-root", "p"), ("no-preserve-root", "n")]
  let reduction := arguments.find? isReduction
  let options ← grammar.take (arguments.filter fun argument => reduction != some argument)
  let (text, paths) := match options.value? "reference", reduction, options.operands with
    | some path, _, operands => (path, operands)
    | none, some text, operands => (text, operands)
    | none, none, text :: rest => (text, rest)
    | none, none, [] => ("", [])
  if paths.isEmpty then
    grammar.misuse (if text = "" then "missing operand"
      else "missing operand after " ++ inQuotes text)
  let session ← get
  let reference := (options.value? "reference").bind fun path =>
    (session.inode? path).map fun entry => entry.2.mode
  if (Mode.change? false 0 text 0).isNone && (options.value? "reference").isNone then
    grammar.misuse ("invalid mode: " ++ inQuotes text)
  Shell.finish 0
  for path in paths do
    let session ← get
    match session.locate path with
    | .error cause =>
      report "chmod" ("cannot access " ++ inQuotes path ++ ": " ++ cause.summary)
      Shell.finish 1
    | .ok place =>
      if (session.files.node? place).isNone then
        report "chmod" ("cannot access " ++ inQuotes path ++ ": No such file or directory")
        Shell.finish 1
      let all := if options.has "R" then subtree session.files place
        else ((session.files.number? place).map fun number => (place, number)).toList
      for (below, number) in all do
        let session ← get
        match session.files.inode? number with
        | none => pure ()
        | some inode =>
          if !(inode.node matches .link _) then
            let mode := reference.getD
              ((Mode.change? inode.node.isDirectory session.mask text inode.mode).getD inode.mode)
            set { session with
              files := session.files.change number fun inode => { inode with mode := mode } }
            let shown := path ++ String.join ((below.drop place.length).map fun name =>
              "/" ++ Octets.ofText name)
            let told (n : Nat) : String := Mode.octal 4 n ++ " (" ++ Mode.text n ++ ")"
            if mode ≠ inode.mode && (options.has "v" || options.has "c") then
              Shell.put ("mode of " ++ inQuotes shown ++ " changed from " ++ told inode.mode ++
                " to " ++ told mode ++ "\n")
            else if options.has "v" then
              Shell.put ("mode of " ++ inQuotes shown ++ " retained as " ++ told mode ++ "\n")

/-- Whether a name stands for somebody in a list such as that of users or groups. -/
def isListed (session : Session) (path name : String) : Bool :=
  let lines := match session.contents path with
    | .ok content => content.splitOn "\n"
    | .error _ => []
  name.toNat?.isSome || lines.any fun line => (line.splitOn ":").head? == some name

/-- The user and the group that a text such as `user:group` names, or why it names none. -/
def ownersOf (session : Session) (namesGroup : Bool) (text : String) :
    Except String (Option String × Option String) :=
  let (user, group) := if namesGroup then ("", text) else
    match text.splitOn ":" with
    | [user] => (user, "")
    | user :: rest => (user, ":".intercalate rest)
    | [] => ("", "")
  if user ≠ "" && !isListed session "/etc/passwd" user then
    .error ("invalid user: " ++ inQuotes text)
  else if group ≠ "" && !isListed session "/etc/group" group then
    .error ("invalid group: " ++ inQuotes text)
  else
    let given (name : String) : Option String := if name = "" then none else some name
    .ok (given user, given group)

/-- Changes the owners of files, which are always the same. -/
def chown (program : String) : Utility := fun arguments => do
  let grammar := Grammar.standard program "RcfvhHLP"
    [("recursive", "R"), ("changes", "c"), ("silent", "f"), ("quiet", "f"), ("verbose", "v"),
      ("no-dereference", "h"), ("reference:", "reference"), ("from:", "from")]
  let options ← grammar.take arguments
  let paths := if options.has "reference" then options.operands else options.operands.drop 1
  if paths.isEmpty then grammar.missingOperand options.operands.head?
  let session ← get
  let owner := options.operands.headD ""
  let (user, group) ← if options.has "reference" then pure (some "root", some "root")
    else
      match ownersOf session (program = "chgrp") owner with
      | .ok owners => pure owners
      | .error cause => quit program 1 cause
  Shell.finish 0
  for path in paths do
    if (session.nodeNamed? path).isNone then
      if !options.has "f" then
        report program ("cannot access " ++ inQuotes path ++ ": No such file or directory")
      Shell.finish 1
    else if options.has "v" then
      let shown := match user, group with
        | some user, some group => " as " ++ user ++ ":" ++ group
        | some name, none | none, some name => " as " ++ name
        | none, none => ""
      let kind := if program = "chgrp" || user.isNone && group.isSome then "group"
        else "ownership"
      Shell.put (kind ++ " of " ++ inQuotes path ++ " retained" ++ shown ++ "\n")

/-! ## New files -/

/-- Makes a pipe with a name. -/
def mkfifo : Utility := fun arguments => do
  let grammar := Grammar.standard "mkfifo" "m:Z" [("mode:", "m")]
  let options ← grammar.take arguments
  if options.operands.isEmpty then grammar.missingOperand none
  Shell.finish 0
  for path in options.operands do
    let session ← get
    match placeOf session false path with
    | .error cause =>
      report "mkfifo" ("cannot create fifo " ++ inQuotes path ++ ": " ++ cause.summary)
      Shell.finish 1
    | .ok place =>
      if (session.files.node? place).isSome then
        report "mkfifo" ("cannot create fifo " ++ inQuotes path ++ ": File exists")
        Shell.finish 1
      else
        set (session.create place .pipe)
        match options.value? "m" with
        | some text => setMode path fun isDirectory _ _ =>
            (Mode.change? isDirectory 0 text 0x1b6).getD 0x1a4
        | none => pure ()

/-- A letter of a name that is made up. -/
def nameLetter (n : Nat) : Char :=
  let letters := "ABCDEFGHIJKLMNOPQRSTUVWXYZabcdefghijklmnopqrstuvwxyz0123456789".toList
  (letters[n % letters.length]?).getD 'A'

/-- A name that is made up, given a number. -/
def madeName (length seed : Nat) : String :=
  let step (state : Nat × List Char) : Nat × List Char :=
    let next := (6364136223846793005 * state.1 + 1442695040888963407) % 0x10000000000000000
    (next, nameLetter (next / 0x100000000) :: state.2)
  String.ofList (Nat.repeat step length (seed + 1, [])).2

/-- Creates a file or a directory with a name that no other one has. -/
def mktemp : Utility := fun arguments => do
  let grammar := Grammar.standard "mktemp" "dp:qtuV"
    [("directory", "d"), ("quiet", "q"), ("dry-run", "u"), ("suffix:", "suffix"),
      ("tmpdir::", "p")]
  let options ← grammar.take arguments
  let session ← get
  let usual := match session.value "TMPDIR" with
    | "" => "/tmp"
    | path => path
  let template := options.operands.headD "tmp.XXXXXXXXXX"
  let suffix := (options.value? "suffix").getD
    (String.ofList (template.toList.reverse.takeWhile (· != 'X')).reverse)
  let front := if options.has "suffix" then template
    else slice template 0 (template.length - suffix.length)
  let count := (front.toList.reverse.takeWhile (· == 'X')).length
  if count < 3 then
    quit "mktemp" 1 ("too few X\x27s in template " ++ inQuotes template)
  let directory := if options.has "p" then
      some (match (options.value? "p").getD "" with
        | "" => usual
        | path => path)
    else if options.operands.isEmpty || options.has "t" then some usual
    else none
  let stem := slice front 0 (front.length - count)
  let names := (List.range 100).map fun n =>
    let name := stem ++ madeName count (session.clock + 7919 * n + session.self) ++ suffix
    (directory.map fun path => inDirectory path name).getD name
  match names.find? fun name => (session.nodeNamed? name).isNone with
  | none => Shell.finish 1
  | some name =>
    match placeOf session false name with
    | .error cause =>
      let kind := if options.has "d" then "directory" else "file"
      let shown := (directory.map fun path => inDirectory path template).getD template
      quit "mktemp" 1 ("failed to create " ++ kind ++ " via template " ++ inQuotes shown ++ ": " ++
        cause.summary)
    | .ok place =>
      if !options.has "u" then
        let node := if options.has "d" then Node.directory else .file ByteArray.empty
        set (session.create place node)
        setMode name fun isDirectory _ _ => if isDirectory then 0x1c0 else 0x180
      Shell.put (name ++ "\n")
      Shell.finish 0

/-- Changes the sizes of files. -/
def truncate : Utility := fun arguments => do
  let grammar := Grammar.standard "truncate" "cor:s:"
    [("no-create", "c"), ("io-blocks", "o"), ("reference:", "r"), ("size:", "s")]
  let options ← grammar.take arguments
  let session ← get
  let reference := (options.value? "r").bind fun path =>
    match session.node? path with
    | some (.file content) => some content.size
    | _ => none
  let text := (options.value? "s").getD (if options.has "r" then "+0" else "")
  let (sign, digits) := match text.toList with
    | c :: rest => if ['+', '-', '<', '>', '/', '%'].contains c then (some c, String.ofList rest)
      else (none, text)
    | [] => (none, text)
  match multiple? digits with
  | none =>
    if text = "" then grammar.misuse "you must specify either \x27--size\x27 or \x27--reference\x27"
    else quit "truncate" 1 ("Invalid number: " ++ inQuotes text)
  | some n =>
    if options.operands.isEmpty then grammar.misuse "missing file operand"
    Shell.finish 0
    for path in options.operands do
      let session ← get
      match placeOf session true path, session.node? path with
      | .error cause, _ =>
        report "truncate" ("cannot open " ++ inQuotes path ++ " for writing: " ++ cause.summary)
        Shell.finish 1
      | .ok place, node =>
        let content := match node with
          | some (.file content) => content
          | _ => ByteArray.empty
        let old := reference.getD content.size
        let size := match sign with
          | some '+' => old + n
          | some '-' => old - n
          | some '<' => min old n
          | some '>' => max old n
          | some '/' => old / max 1 n * n
          | some '%' => (old + n - 1) / max 1 n * n
          | _ => n
        if node.isSome || !options.has "c" then
          let zeros : ByteArray := ⟨Array.replicate (size - content.size) 0⟩
          set (session.store place (content.extract 0 size ++ zeros))

/-! ## Streams -/

/-- Copies what is given to the output and to channels, as long as there is something. -/
def pump (channels : List Nat) : Nat → Shell Unit
  | 0 => pure ()
  | fuel + 1 => do
    let text ← Shell.takeSome 0
    if text ≠ "" then
      Shell.put text
      for channel in channels do
        Shell.write channel text
      pump channels fuel

/-- Writes what it reads, and puts it into files as well. -/
def tee : Utility := fun arguments => do
  let grammar := Grammar.standard "tee" "aip"
    [("append", "a"), ("ignore-interrupts", "i"), ("output-error::", "p")]
  let options ← grammar.take arguments
  Shell.finish 0
  let mut channels := []
  let mut failed := false
  for path in options.operands do
    match ← openStream path ⟨false, true, !options.has "a", options.has "a"⟩ with
    | .ok stream =>
      let channel := 100 + channels.length
      modify fun session => session.connectNew channel stream
      channels := channels ++ [channel]
    | .error cause =>
      let cause := if cause = "Directory nonexistent" then "No such file or directory" else cause
      report "tee" (quotedName path ++ ": " ++ cause)
      failed := true
  pump channels 1000000
  Shell.finish (if failed then 1 else 0)

/-- An operand of `dd`. -/
def setting (arguments : List String) (name : String) : Option String :=
  (arguments.reverse.find? fun argument => argument.startsWith (name ++ "=")).map
    (dropFront (name.length + 1))

/-- Copies blocks of bytes. -/
def dd : Utility := fun arguments => do
  let known := ["if", "of", "bs", "ibs", "obs", "count", "skip", "seek", "conv", "status",
    "iflag", "oflag", "cbs"]
  match arguments.find? fun argument =>
    !(argument.contains '=' && known.contains ((argument.splitOn "=").headD "")) with
  | some bad =>
    (Grammar.standard "dd" "" []).misuse ("unrecognized operand " ++ inQuotes bad)
  | none => pure ()
  let number (name : String) : Option Nat := (setting arguments name).bind multiple?
  let flags := ((setting arguments "iflag").getD "").splitOn ","
  let size := ((number "bs").or (number "ibs")).getD 512
  let outSize := ((number "bs").or (number "obs")).getD 512
  let outFlags := ((setting arguments "oflag").getD "").splitOn ","
  let skip := ((number "skip").getD 0) * if flags.contains "skip_bytes" then 1 else size
  let count := (number "count").map fun n =>
    if flags.contains "count_bytes" then n else n * size
  let conversions := ((setting arguments "conv").getD "").splitOn ","
  Shell.finish 0
  match setting arguments "if" with
  | some path =>
    match ← openStream path ⟨true, false, false, false⟩ with
    | .ok stream => modify fun session => session.connectNew 0 stream
    | .error cause =>
      let cause := if cause = "No such file" then "No such file or directory" else cause
      quit "dd" 1 ("failed to open " ++ inQuotes path ++ ": " ++ cause)
  | none => pure ()
  let wanted := match count with
    | some n => skip + n
    | none => Shell.plenty
  let taken ← if wanted = 0 then pure "" else takeExactly wanted
  let content := dropFront skip taken
  let swapped (text : List Char) : List Char := swapPairs text
  let changed := conversions.foldl
    (fun text conversion =>
      match conversion with
      | "ucase" => text.map Char.toUpper
      | "lcase" => text.map Char.toLower
      | "swab" => swapped text
      | "sync" =>
        let missing := (size - text.length % size) % size
        text ++ List.replicate missing '\x00'
      | _ => text)
    content.toList
  let shown := String.ofList changed
  let seek := ((number "seek").getD 0) * if outFlags.contains "seek_bytes" then 1 else outSize
  match setting arguments "of" with
  | some path =>
    let keeps := conversions.contains "notrunc" || outFlags.contains "append"
    match ← openStream path ⟨false, true, !keeps && seek = 0, outFlags.contains "append"⟩ with
    | .ok stream =>
      let moved := match stream with
        | .file number _ atEnd => Stream.file number seek atEnd
        | stream => stream
      modify fun session => session.connectNew 1 moved
      if !keeps && 0 < seek then
        modify fun session =>
          match session.node? path, session.inode? path with
          | some (.file old), some (number, _) => session.write number (old.extract 0 seek)
          | _, _ => session
    | .error cause =>
      let cause := if cause = "Directory nonexistent" then "No such file or directory" else cause
      quit "dd" 1 ("failed to open " ++ inQuotes path ++ ": " ++ cause)
  | none => pure ()
  Shell.put shown
  if setting arguments "status" ≠ some "none" then
    let records (bytes unit : Nat) : String :=
      toString (bytes / unit) ++ "+" ++ (if bytes % unit = 0 then "0" else "1")
    let told := toString shown.length ++ (if shown.length = 1 then " byte" else " bytes") ++
      " copied, 0.0001 s, 1.0 MB/s\n"
    Shell.write 2 (records content.length (max 1 size) ++ " records in\n" ++
      records shown.length (max 1 outSize) ++ " records out\n" ++
      if setting arguments "status" == some "noxfer" then "" else told)
where
  /-- Changes the places of bytes in pairs. -/
  swapPairs : List Char → List Char
    | a :: b :: rest => b :: a :: swapPairs rest
    | rest => rest
  /-- Takes no more than so many bytes. -/
  takeExactly (wanted : Nat) : Shell String := do
    let mut taken := ""
    for _ in List.range 100000 do
      if taken.length < wanted then
        Shell.awaitInput 0 0
        let session ← get
        let found := session.available 0
        let used := min found.size (wanted - taken.length)
        if used = 0 then return taken
        set (session.advance 0 used)
        taken := taken ++ Octets.ofBytes (found.content.extract found.start (found.start + used))
      else return taken
    return taken

/-- The programs that make, change and take away files. -/
def makingTable : List (String × Program) :=
  [("mkdir", alone mkdir), ("rmdir", alone rmdir), ("rm", alone rm), ("unlink", alone unlink),
    ("touch", alone touch), ("chmod", alone chmod), ("chown", alone (chown "chown")),
    ("chgrp", alone (chown "chgrp")), ("mkfifo", alone mkfifo), ("mktemp", alone mktemp),
    ("truncate", alone truncate), ("tee", alone tee), ("dd", alone dd),
    ("sync", alone (Builtins.constant 0))]

end Compositor.Script.Programs
