import Compositor.Simulation.Script.Mode
import Compositor.Simulation.Script.Programs.Names

set_option autoImplicit false

/-!
# Programs that copy, move and link files

## Main definitions

* `Script.Programs.Copying` — how files are copied.
* `Script.Programs.copyTree` — copies what stands at and below a place.
* `Script.Programs.destinations` — where operands are to go.
* `Script.Programs.transferTable` — the programs that copy, move and link files.
-/

namespace Compositor.Script.Programs

/-! ## Places -/

/-- The names of what stands at and below a place, those of directories before those in them. -/
def subtree (files : FileTree) (place : Place) : List (Place × Nat) :=
  (files.below place).mergeSort fun a b => decide (Place.path a.1 ≤ Place.path b.1)

/-- The place of something that may be new, or why nothing can be there. -/
def placeOf (session : Session) (follows : Bool) (path : String) : Except FileError Place :=
  let found := if follows then session.locate path else session.locateName path
  match found with
  | .error cause => .error cause
  | .ok place =>
    if (session.files.node? place).isSome then .ok place
    else if session.files.hasDirectory place.dropLast && FileTree.takesNew place then .ok place
    else .error .notFound

/-- The paths of a directory and those above it, the first one first. -/
def pathsTo (path : String) : List String :=
  let isAbsolute := path.startsWith "/"
  let pieces := (path.splitOn "/").filter (· ≠ "")
  (List.range pieces.length).map fun n =>
    (if isAbsolute then "/" else "") ++ "/".intercalate (pieces.take (n + 1))

/-! ## Old files -/

/-- How old files are kept when others take their places. -/
structure Keeping where
  /-- What is put after the name of an old file that gets no number. -/
  suffix : String
  /-- Whether old files get numbers; if it is left open they do where one has a number already. -/
  numbered : Option Bool

/-- How options say that old files are kept, if they do. The environment may say it where an option
leaves it open. -/
def Keeping.ofOptions? (options : Options) (session : Session) : Except String (Option Keeping) :=
  let suffix := match options.value? "S" with
    | some suffix => suffix
    | none =>
      match session.value "SIMPLE_BACKUP_SUFFIX" with
      | "" => "~"
      | suffix => suffix
  if !options.has "b" && !options.has "S" then .ok none
  else
    let kind := match options.value? "b" with
      | some "" | none => session.value "VERSION_CONTROL"
      | some kind => kind
    let isStart (names : List String) : Bool := names.any fun name => name.startsWith kind
    if kind = "" then .ok (some ⟨suffix, none⟩)
    else if kind = "n" then .error "ambiguous"
    else if isStart ["none", "off"] then .ok none
    else if isStart ["simple", "never"] then .ok (some ⟨suffix, some false⟩)
    else if isStart ["existing", "nil"] then .ok (some ⟨suffix, none⟩)
    else if isStart ["numbered"] || kind = "t" then .ok (some ⟨suffix, some true⟩)
    else .error "invalid"

/-- How options say that old files are kept. A program that cannot make sense of them fails. -/
def keepingOf (grammar : Grammar) (options : Options) : Shell (Option Keeping) := do
  match Keeping.ofOptions? options (← get) with
  | .ok keeping => return keeping
  | .error cause => grammar.misuse (cause ++ " argument " ++
      inQuotes ((options.value? "b").getD "") ++ " for \x27backup type\x27\n" ++
      "Valid arguments are:\n  - \x27none\x27, \x27off\x27\n" ++
      "  - \x27simple\x27, \x27never\x27\n  - \x27existing\x27, \x27nil\x27\n" ++
      "  - \x27numbered\x27, \x27t\x27")

/-- The path under which an old file is kept. -/
def Keeping.path (keeping : Keeping) (session : Session) (target : String) : String :=
  let names := match session.locate (directoryName target) with
    | .ok place => session.files.namesIn place
    | .error _ => []
  let start := lastName target ++ ".~"
  let numbers := names.filterMap fun name =>
    let name := Octets.ofText name
    if name.startsWith start && name.endsWith "~" then
      (slice name start.length (name.length - 1)).toNat?
    else none
  if keeping.numbered.getD (!numbers.isEmpty) then
    target ++ ".~" ++ toString (numbers.foldl max 0 + 1) ++ "~"
  else target ++ keeping.suffix

/-- Keeps what stands at a path, if anything does, and returns under which path. -/
def keepOld (keeping : Option Keeping) (target : String) : Shell (Option String) := do
  let session ← get
  match keeping with
  | none => return none
  | some keeping =>
    let path := keeping.path session target
    match session.locateName target, session.locateName path with
    | .ok place, .ok other =>
      if (session.files.node? place).isNone then return none
      set { session with files := session.files.move place other }
      return some path
    | _, _ => return none

/-- Two names with an arrow between them, and the name under which an old file is kept. -/
def arrow (source target : String) (kept : Option String) : String :=
  inQuotes source ++ " -> " ++ inQuotes target ++
    match kept with
    | some path => " (backup: " ++ inQuotes path ++ ")"
    | none => ""

/-- Whether something may be replaced: what to do about old files is said by options, and somebody
may be asked. -/
def mayReplace (program : String) (options : Options) (source target : String) : Shell Bool := do
  let session ← get
  match session.inode? target with
  | none => return true
  | some (_, old) =>
    let isNewer := (session.inode? source).any fun (_, new) => old.time < new.time
    let update := options.value? "u"
    let last := options.last? ["f", "i", "n"]
    if last == some "n" then
      if program = "mv" then
        report program ("not replacing " ++ inQuotes target)
        Shell.finish 1
      return false
    else if update == some "none" then return false
    else if update.isSome && update != some "all" && !isNewer then return false
    else if last == some "i" && !old.node.isDirectory then
      Shell.write 2 (program ++ ": overwrite " ++ inQuotes target ++ "? ")
      let answer ← Shell.takeLine 0
      if answer.startsWith "y" || answer.startsWith "Y" then return true
      Shell.finish 1
      return false
    else return true

/-! ## Operands -/

/-- Where operands are to go: pairs of sources and targets. -/
def destinations (grammar : Grammar) (options : Options) : Shell (List (String × String)) := do
  let session ← get
  let into (directory : String) (sources : List String) : List (String × String) :=
    sources.map fun source => (source, inDirectory directory (lastName source))
  let target (path : String) : Shell Unit := do
    if !session.hasDirectory path then
      quit grammar.program grammar.failure ("target " ++ inQuotes path ++
        (if (session.node? path).isSome then ": Not a directory"
        else ": No such file or directory"))
  match options.value? "t", options.operands with
  | _, [] => grammar.misuse "missing file operand"
  | some directory, sources => do
    target directory
    return into directory sources
  | none, [only] => grammar.misuse ("missing destination file operand after " ++ inQuotes only)
  | none, [source, path] =>
    if options.has "T" then return [(source, path)]
    else if session.hasDirectory path then return into path [source]
    else return [(source, path)]
  | none, operands => do
    let directory := operands.getLast?.getD ""
    if options.has "T" then grammar.extraOperand ((operands[2]?).getD "")
    target directory
    return into directory operands.dropLast

/-! ## Copying -/

/-- How files are copied. -/
structure Copying where
  /-- The name of the program. -/
  program : String
  /-- Whether directories are copied. -/
  deep : Bool
  /-- Whether links in what is copied are followed. -/
  follows : Bool
  /-- Whether permissions stay the same. -/
  keepsMode : Bool
  /-- Whether times stay the same. -/
  keepsTime : Bool
  /-- Whether files that have several names keep them. -/
  keepsLinks : Bool
  /-- Whether copies are only further names, or symbolic links. -/
  linking : Option Bool
  /-- Whether each copy is told. -/
  tells : Bool
  /-- How old files are kept, if they are. -/
  keeping : Option Keeping
  /-- The options that say which old files are replaced. -/
  options : Options
  /-- Whether old files are taken away first. -/
  removes : Bool
  /-- Whether the attributes of an old file do not matter. -/
  force : Bool

/-- Takes over the permissions and the time of what is copied. -/
def Copying.finishNode (copying : Copying) (place : Place) (source : Inode) (isNew : Bool) :
    Shell Unit :=
  modify fun session =>
    match session.files.number? place with
    | none => session
    | some number =>
      { session with
        files := session.files.change number fun inode =>
          { inode with
            mode := if copying.keepsMode then source.mode
              else if isNew then source.mode - (source.mode &&& (session.mask ||| 0xe00))
              else inode.mode
            time := if copying.keepsTime then source.time else inode.time } }

/-- Copies one thing to a place. -/
def Copying.copyNode (copying : Copying) (source : Inode) (number : Nat) (place : Place)
    (linkText target : String) : Shell Unit := do
  if copying.removes && !source.node.isDirectory then
    modify fun session => { session with files := session.files.remove place }
  let session ← get
  let old := session.files.node? place
  match copying.linking, source.node with
  | some true, .file _ =>
    let node := Node.link (Octets.toText linkText)
    if !linkText.startsWith "/" && place.dropLast ≠ session.here then
      report copying.program (quotedName target ++
        ": can make relative symbolic links only in current directory")
      Shell.finish 1
    else set ({ session with files := session.files.remove place }.create place node)
  | some false, .file _ => set { session with files := session.files.attach place number }
  | _, .directory =>
    if old.isNone then set (session.create place .directory)
    copying.finishNode place source old.isNone
  | _, .file content =>
    match old with
    | some (.file _) | none => set (session.store place content)
    | some (.device _) => pure ()
    | some _ =>
      set ({ session with files := session.files.remove place }.store place content)
    copying.finishNode place source old.isNone
  | _, node =>
    let free := { session with files := session.files.remove place }
    set (free.create place node)
    copying.finishNode place source true

/-- Copies what stands at and below a place to another place. -/
def copyTree (copying : Copying) (source target : String) (start place : Place) : Shell Unit := do
  let mut copied : List (Nat × Place) := []
  let isOutside (below : Place) : Bool :=
    below = start || !start.isPrefixOf place || !place.isPrefixOf below
  let all := (subtree (← get).files start).filter fun (below, _) => isOutside below
  for (below, number) in all do
    let rest := below.drop start.length
    let suffix := String.join (rest.map fun name => "/" ++ Octets.ofText name)
    let new := place ++ rest
    let session ← get
    let (number, found) := match session.files.inode? number with
      | some ⟨.link _, mode, time⟩ =>
        if copying.follows then
          match session.locate (Octets.ofText (Place.path below)) with
          | .ok real =>
            let number := (session.files.number? real).getD number
            (number, session.files.inode? number)
          | .error _ => (number, none)
        else (number, some ⟨(session.files.node? below).getD .pipe, mode, time⟩)
      | found => (number, found)
    match found with
    | none => pure ()
    | some inode =>
      let old := session.files.node? new
      if inode.node.isDirectory && old.any (fun node => !node.isDirectory) then
        report copying.program ("cannot overwrite non-directory " ++ inQuotes (target ++ suffix) ++
          " with directory " ++ inQuotes (source ++ suffix))
        Shell.finish 1
      else if !inode.node.isDirectory && old.any Node.isDirectory then
        report copying.program ("cannot overwrite directory " ++ inQuotes (target ++ suffix) ++
          " with non-directory " ++ inQuotes (source ++ suffix))
        Shell.finish 1
      else if session.files.hasDirectory new.dropLast then
        let (source, target) := (source ++ suffix, target ++ suffix)
        if ← mayReplace copying.program copying.options source target then
          let kept ← if inode.node.isDirectory then pure none else keepOld copying.keeping target
          if copying.tells && !(inode.node.isDirectory && old.isSome) then
            if copying.removes && old.isSome && kept.isNone then
              Shell.put ("removed " ++ inQuotes target ++ "\n")
            Shell.put (arrow source target kept ++ "\n")
          match copied.lookup number with
          | some first =>
            if copying.keepsLinks then
              modify fun session =>
                let shared := (session.files.number? first).getD 0
                { session with files := session.files.attach new shared }
            else copying.copyNode inode number new source target
          | none =>
            copying.copyNode inode number new source target
            if !inode.node.isDirectory then copied := (number, new) :: copied

/-- Copies what stands at a path to another path. -/
def Copying.copy (copying : Copying) (followsFirst : Bool) (source target : String) :
    Shell Unit := do
  let session ← get
  let fail (message : String) : Shell Unit := do
    report copying.program message
    Shell.finish 1
  let start := if followsFirst then session.locate source else session.locateName source
  match start with
  | .error cause => fail ("cannot stat " ++ inQuotes source ++ ": " ++ cause.summary)
  | .ok start =>
    match session.files.node? start with
    | none => fail ("cannot stat " ++ inQuotes source ++ ": No such file or directory")
    | some node =>
      if node.isDirectory && !copying.deep then
        fail ("-r not specified; omitting directory " ++ inQuotes source)
      else
        let follows := !(copying.deep && !node.isDirectory && node matches .link _)
        let writesThrough := !copying.removes && copying.linking.isNone && copying.keeping.isNone
        match placeOf session (follows && writesThrough) target with
        | .error cause =>
          fail ((if node.isDirectory then "cannot create directory " else
            "cannot create regular file ") ++ inQuotes target ++ ": " ++ cause.summary)
        | .ok place =>
          let old := session.files.number? place
          let options := copying.options
          let isLeft := old.isSome && !node.isDirectory &&
            (options.last? ["f", "i", "n"] == some "n" || options.value? "u" == some "none")
          if isLeft then pure ()
          else if node.isDirectory && start.isPrefixOf place && place ≠ start then
            copyTree copying source target start place
            fail ("cannot copy a directory, " ++ inQuotes source ++ ", into itself, " ++
              inQuotes target)
          else if old.isSome && old == session.files.number? start then
            fail (inQuotes source ++ " and " ++ inQuotes target ++ " are the same file")
          else if target.endsWith "/" && !node.isDirectory && old.isNone then
            fail ("cannot create regular file " ++ inQuotes target ++ ": Not a directory")
          else if copying.linking.isSome && old.isSome && !node.isDirectory && !copying.force then
            fail ("cannot create " ++ (if copying.linking == some true then "symbolic" else "hard") ++
              " link " ++ inQuotes target ++ " to " ++ inQuotes source ++ ": File exists")
          else copyTree copying source target start place

/-- Copies files. -/
def cp : Utility := fun arguments => do
  let grammar := Grammar.standard "cp" "abdfilnprst:uvxHLPRS:TZ"
    [("archive", "a"), ("backup::", "b"), ("force", "f"), ("interactive", "i"), ("link", "l"),
      ("no-clobber", "n"), ("no-target-directory", "T"), ("parents", "parents"),
      ("preserve::", "preserve"), ("recursive", "r"), ("dereference", "L"),
      ("no-dereference", "P"), ("symbolic-link", "s"), ("target-directory:", "t"),
      ("update::", "u"), ("verbose", "v"), ("remove-destination", "remove"), ("suffix:", "S"),
      ("attributes-only", "attributes-only"), ("no-preserve:", "no-preserve"),
      ("strip-trailing-slashes", "strip"), ("one-file-system", "x"), ("sparse:", "sparse"),
      ("reflink::", "reflink")]
  let options ← grammar.take arguments
  if options.has "n" then
    report "cp" ("warning: behavior of -n is non-portable and may change in future; " ++
      "use --update=none instead")
  let preserved := (options.values "preserve").flatMap fun text => text.splitOn ","
  let keeps (name : String) : Bool :=
    options.has "a" || preserved.contains name || preserved.contains "all" ||
      (name ≠ "links" && (options.has "p" || preserved.contains ""))
  let deep := options.has "r" || options.has "R" || options.has "a"
  let last := options.last? ["L", "P", "H", "a", "d"]
  let copying : Copying :=
    { program := "cp"
      deep := deep
      follows := if deep then last == some "L" else last != some "P" && last != some "d"
      keepsMode := keeps "mode"
      keepsTime := keeps "timestamps"
      keepsLinks := keeps "links" || options.has "d"
      linking := if options.has "l" then some false else if options.has "s" then some true else none
      tells := options.has "v"
      keeping := ← keepingOf grammar options
      options := options
      removes := options.has "remove"
      force := options.has "f" }
  let followsFirst := if deep then last == some "L" || last == some "H"
    else last != some "P" && last != some "d"
  let pairs ← if options.has "parents" then
      (do
        let directory := options.operands.getLast?.getD ""
        return options.operands.dropLast.map fun source =>
          (source, inDirectory directory source))
    else destinations grammar options
  Shell.finish 0
  for (source, target) in pairs do
    if options.has "parents" then
      modify fun session =>
        { session with
          files := (session.files.makeDirectories session.here
            (Octets.toText (directoryName target))).2 }
    copying.copy followsFirst source target

/-! ## Moving -/

/-- Moves what stands at a path to another path. -/
def moveOne (options : Options) (keeping : Option Keeping) (source target : String) : Shell Unit := do
  let session ← get
  let fail (message : String) : Shell Unit := do
    report "mv" message
    Shell.finish 1
  match session.locateName source with
  | .error cause => fail ("cannot stat " ++ inQuotes source ++ ": " ++ cause.summary)
  | .ok start =>
    match session.files.node? start, placeOf session false target with
    | none, _ => fail ("cannot stat " ++ inQuotes source ++ ": No such file or directory")
    | some _, .error cause =>
      fail ("cannot move " ++ inQuotes source ++ " to " ++ inQuotes target ++ ": " ++ cause.summary)
    | some node, .ok place =>
      let old := session.files.node? place
      let sameNumber := old.isSome && session.files.number? place == session.files.number? start
      if start = place then
        fail (inQuotes source ++ " and " ++ inQuotes target ++ " are the same file")
      else if source.endsWith "/" && !node.isDirectory then
        fail ("cannot stat " ++ inQuotes source ++ ": Not a directory")
      else if node.isDirectory && start.isPrefixOf place then
        fail ("cannot move " ++ inQuotes source ++ " to a subdirectory of itself, " ++
          inQuotes target)
      else if target.endsWith "/" && !node.isDirectory && old.isNone then
        fail ("cannot move " ++ inQuotes source ++ " to " ++ inQuotes target ++
          ": Not a directory")
      else if node.isDirectory && old.any fun other => !other.isDirectory then
        fail ("cannot overwrite non-directory " ++ inQuotes target ++ " with directory " ++
          inQuotes source)
      else if !node.isDirectory && old.any Node.isDirectory then
        fail ("cannot overwrite directory " ++ inQuotes target ++ " with non-directory " ++
          inQuotes source)
      else if keeping.isNone && old.any Node.isDirectory &&
          !(session.files.namesIn place).isEmpty then
        fail ("cannot overwrite " ++ inQuotes target ++ ": Directory not empty")
      else
        let kept ← keepOld keeping target
        if options.has "v" then Shell.put ("renamed " ++ arrow source target kept ++ "\n")
        if sameNumber then
          modify fun session => { session with files := session.files.remove start }
        else if old matches some (.device _) then
          modify fun session => { session with files := session.files.remove start }
        else modify fun session =>
          let moved := session.files.move start place
          let here := if start.isPrefixOf session.here then
              place ++ session.here.drop start.length
            else session.here
          { session with files := moved, here := here }

/-- Moves files. -/
def mv : Utility := fun arguments => do
  let grammar := Grammar.standard "mv" "bfint:uvS:TZ"
    [("backup::", "b"), ("force", "f"), ("interactive", "i"), ("no-clobber", "n"),
      ("no-target-directory", "T"), ("target-directory:", "t"), ("update::", "u"),
      ("verbose", "v"), ("suffix:", "S"), ("strip-trailing-slashes", "strip")]
  let options ← grammar.take arguments
  let keeping ← keepingOf grammar options
  let pairs ← destinations grammar options
  Shell.finish 0
  for (source, target) in pairs do
    if ((← get).nodeNamed? source).isNone then moveOne options none source target
    else if ← mayReplace "mv" options source target then
      moveOne options keeping source target

/-! ## Links -/

/-- Gives a file another name, or makes a symbolic link. -/
def linkOne (options : Options) (keeping : Option Keeping) (source target : String) : Shell Unit := do
  let session ← get
  let symbolic := options.has "s"
  let fail (message : String) : Shell Unit := do
    report "ln" message
    Shell.finish 1
  let kind := if symbolic then "symbolic" else "hard"
  let failed (cause : String) : Shell Unit :=
    fail ("failed to create " ++ kind ++ " link " ++ inQuotes target ++
      (if symbolic || cause ≠ "No such file or directory" then "" else " => " ++ inQuotes source) ++
      ": " ++ cause)
  let text := if options.has "r" then
      match resolved session .nothing source, resolved session .nothing (directoryName target) with
      | .ok place, .ok start => relativePath start place
      | _, _ => source
    else source
  let origin : Except String (Option Nat) := if symbolic then .ok none
    else
      match if options.has "L" then session.locate source else session.locateName source with
      | .error cause => .error cause.summary
      | .ok place =>
        match session.files.node? place, session.files.number? place with
        | some .directory, _ => .error "hard link not allowed for directory"
        | some _, some number => .ok (some number)
        | _, _ => .error "No such file or directory"
  match origin with
  | .error "hard link not allowed for directory" =>
    fail (quotedName source ++ ": hard link not allowed for directory")
  | .error cause => fail ("failed to access " ++ inQuotes source ++ ": " ++ cause)
  | .ok number =>
    match placeOf session false target with
    | .error cause => failed cause.summary
    | .ok place =>
      let old := session.files.node? place
      if old.any Node.isDirectory && options.has "f" then
        fail (quotedName target ++ ": cannot overwrite directory")
      else if number.isSome && session.files.number? place == number && options.has "f" then
        fail (inQuotes source ++ " and " ++ inQuotes target ++ " are the same file")
      else if old.isSome && !options.has "f" && keeping.isNone then failed "File exists"
      else
        let kept ← keepOld keeping target
        let session ← get
        let free := { session with files := session.files.remove place }
        match number with
        | some number => set { free with files := free.files.attach place number }
        | none => set (free.create place (.link (Octets.toText text)))
        if options.has "v" then
          let old := match kept with
            | some path => inQuotes path ++ " ~ "
            | none => ""
          Shell.put (old ++ inQuotes target ++ (if symbolic then " -> " else " => ") ++
            inQuotes (if symbolic then text else source) ++ "\n")

/-- Makes links. -/
def ln : Utility := fun arguments => do
  let grammar := Grammar.standard "ln" "bdfFinst:vLPrS:T"
    [("symbolic", "s"), ("force", "f"), ("interactive", "i"), ("no-dereference", "n"),
      ("relative", "r"), ("target-directory:", "t"), ("no-target-directory", "T"),
      ("verbose", "v"), ("backup::", "b"), ("suffix:", "S"), ("logical", "L"), ("physical", "P")]
  let options ← grammar.take arguments
  let keeping ← keepingOf grammar options
  let session ← get
  let isDirectory (path : String) : Bool :=
    session.hasDirectory path &&
      !(options.has "n" && ((session.nodeNamed? path).any fun node => node matches .link _))
  let into (directory : String) (sources : List String) : List (String × String) :=
    sources.map fun source => (source, inDirectory directory (lastName source))
  let pairs ← match options.value? "t", options.operands with
    | _, [] => grammar.misuse "missing file operand"
    | some directory, sources => pure (into directory sources)
    | none, [source] => pure [(source, "./" ++ lastName source)]
    | none, [source, target] =>
      pure (if !options.has "T" && isDirectory target then into target [source]
        else [(source, target)])
    | none, operands => do
      let directory := operands.getLast?.getD ""
      if !session.hasDirectory directory then
        quit "ln" 1 ("target " ++ inQuotes directory ++
          (if (session.node? directory).isSome then ": Not a directory"
          else ": No such file or directory"))
      pure (into directory operands.dropLast)
  Shell.finish 0
  for (source, target) in pairs do
    linkOne options keeping source target

/-- Gives a file another name. -/
def link : Utility := fun arguments => do
  match arguments with
  | [source, target] =>
    Shell.finish 0
    linkOne ⟨[], []⟩ none source target
  | _ => (Grammar.standard "link" "" []).misuse "missing operand"

/-! ## Installing -/

/-- Copies files with permissions, or makes directories. -/
def install : Utility := fun arguments => do
  let grammar := Grammar.standard "install" "bcCdDg:m:o:pst:TvS:"
    [("directory", "d"), ("mode:", "m"), ("owner:", "o"), ("group:", "g"),
      ("target-directory:", "t"), ("no-target-directory", "T"), ("verbose", "v"),
      ("preserve-timestamps", "p"), ("backup::", "b"), ("strip", "s"), ("suffix:", "S"),
      ("compare", "C")]
  let options ← grammar.take arguments
  Shell.finish 0
  let modeFor (isDirectory : Bool) : Nat :=
    ((options.value? "m").bind fun text => Mode.change? isDirectory 0 text 0).getD 0x1ed
  let setMode (path : String) (isDirectory : Bool) : Shell Unit :=
    modify fun session =>
      match session.inode? path with
      | some (number, _) =>
        { session with
          files := session.files.change number fun inode =>
            { inode with mode := modeFor isDirectory } }
      | none => session
  let makeAll (path : String) : Shell Unit := do
    let before ← get
    let made := (pathsTo path).filter fun path => !before.hasDirectory path
    set { before with
      files := (before.files.makeDirectories before.here (Octets.toText path)).2 }
    if options.has "v" then
      Shell.put (String.join (made.map fun path =>
        "install: creating directory " ++ inQuotes path ++ "\n"))
  if options.has "d" then
    for path in options.operands do
      makeAll path
      setMode path true
  else
    if options.has "D" then
      match options.value? "t", options.operands with
      | some directory, _ => makeAll directory
      | none, [_, target] => makeAll (directoryName target)
      | none, _ => pure ()
    let copying : Copying := ⟨"install", false, true, false, options.has "p", false, none,
      options.has "v", ← keepingOf grammar options, ⟨[], []⟩, true, true⟩
    for (source, target) in ← destinations grammar options do
      copying.copy true source target
      if (← get).status = 0 then setMode target false

/-- The programs that copy, move and link files. -/
def transferTable : List (String × Program) :=
  [("cp", alone cp), ("mv", alone mv), ("ln", alone ln), ("link", alone link),
    ("install", alone install)]

end Compositor.Script.Programs
