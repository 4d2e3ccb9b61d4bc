import Compositor.Simulation.Script.Programs.Finding.Reading
import Compositor.Simulation.Script.Programs.Starting

set_option autoImplicit false

/-!
# Finding files

## Main definitions

* `Script.Programs.Find.describe` — facts about a file that has been reached, by a format.
* `Script.Programs.Find.Search` — how a search stands.
* `Script.Programs.Find.visit` — goes through what is at and below a path.
* `Script.Programs.find` — finds files.
-/

namespace Compositor.Script.Programs

namespace Find

/-! ## Formats -/

/-- A fact about a file that has been reached, by its letter. -/
def foundFact (session : Session) (found : Found) (letter : Char) : Option String :=
  let entity := found.entity
  match letter with
  | 'p' => some found.path
  | 'f' => some (if found.path = "/" then "/" else found.name)
  | 'h' => some found.directory
  | 'P' => some found.below
  | 'H' => some found.start
  | 's' => some (toString entity.size)
  | 'm' => some (String.ofList (Nat.toDigits 8 entity.inode.mode))
  | 'M' => some entity.modeText
  | 'y' => some (String.singleton (letterOf entity))
  | 'Y' =>
    let other := followed session entity
    some (if other.kindLetter = 'l' then "N" else String.singleton (letterOf other))
  | 'l' =>
    match entity.inode.node with
    | .link target => some (Octets.ofText target)
    | _ => some ""
  | 'n' => some (toString (entity.linkCount session.files))
  | 'd' => some (toString found.depth)
  | 'i' => some (toString entity.number)
  | 'u' | 'g' => some "root"
  | 'U' | 'G' => some "0"
  | 'k' => some (toString entity.blocks)
  | 'b' => some (toString (entity.blocks * 2))
  | 't' | 'a' | 'c' => some (entity.timeText "%a %b %e %H:%M:%S.%N0 %Y")
  | 'D' => some "65024"
  | 'F' => some "ext4"
  | _ => none

/-- The time of a file by a letter. -/
def foundTime (entity : Entity) : Char → String
  | '@' => entity.timeText "%s.%N0"
  | 'S' => entity.timeText "%S.%N0"
  | 'T' | 'X' => entity.timeText "%H:%M:%S.%N0"
  | '+' => entity.timeText "%Y-%m-%d+%H:%M:%S.%N0"
  | letter => entity.timeText ("%" ++ String.singleton letter)

/-- Facts about a file that has been reached by a format, as far as the fuel goes. -/
def describedUpTo (session : Session) (found : Found) : Nat → List Char → String
  | 0, _ => ""
  | _, [] => ""
  | _, '\\' :: 'c' :: _ => ""
  | fuel + 1, '\\' :: rest =>
    let (c, rest) := escape rest
    String.singleton c ++ describedUpTo session found fuel rest
  | fuel + 1, '%' :: '%' :: rest => "%" ++ describedUpTo session found fuel rest
  | fuel + 1, '%' :: rest =>
    let flags := rest.takeWhile ['-', '+', '0', '#', ' '].contains
    let body := rest.drop flags.length
    let width := body.takeWhile Char.isDigit
    let body := body.drop width.length
    let fill (text : String) : String :=
      if flags.contains '-' then leftAligned (ofDigits 10 width) text
      else if flags.contains '0' && text.toList.all Char.isDigit then
        String.ofList (List.replicate (ofDigits 10 width - text.length) '0') ++ text
      else rightAligned (ofDigits 10 width) text
    match body with
    | c :: letter :: body =>
      if ['A', 'C', 'T', 'B'].contains c then
        fill (foundTime found.entity letter) ++ describedUpTo session found fuel body
      else
        match foundFact session found c with
        | some text =>
          let shown := if c = 'm' && flags.contains '#' then "0" ++ text else text
          fill shown ++ describedUpTo session found fuel (letter :: body)
        | none =>
          String.ofList ['%', c] ++ describedUpTo session found fuel (letter :: body)
    | [c] =>
      match foundFact session found c with
      | some text => fill text
      | none => String.ofList ['%', c]
    | [] => "%"
  | fuel + 1, c :: rest => String.singleton c ++ describedUpTo session found fuel rest

/-- Facts about a file that has been reached, by a format. -/
def described (session : Session) (found : Found) (format : String) : String :=
  describedUpTo session found (format.length + 1) format.toList

/-! ## Actions -/

/-- How a search stands. -/
structure Search where
  /-- Whether the directory is not entered. -/
  isPruned : Bool
  /-- Whether the search ends. -/
  isOver : Bool
  /-- Whether something has failed. -/
  hasFailed : Bool
  /-- The paths that are kept for programs, the last one first, with the numbers of the programs. -/
  kept : List (Nat × String)
  /-- The files that have been written. -/
  written : List String

/-- Runs a program with a file. -/
def runWith (runner : Runner) (inPlace asks : Bool) (command : List String) (found : Found) :
    Shell Bool := do
  let path := if inPlace then "./" ++ found.name else found.path
  let words := command.map fun word => word.replace "\x7b\x7d" path
  let name := words.headD ""
  let isAgreed ← if asks then
      (do
        Shell.write 2 ("< " ++ command.headD "" ++ " ... " ++ found.path ++ " > ? ")
        let answer ← Shell.takeLine 0
        return answer.startsWith "y" || answer.startsWith "Y")
    else pure true
  if !isAgreed then return false
  match startFault? (← get) name with
  | some (cause, _) =>
    report "find" (inQuotes name ++ ": " ++ cause)
    return false
  | none =>
    let setup (session : Session) : Session :=
      let quiet := if asks then session.connectNew 0 .nothing else session
      if inPlace then
        match session.locate found.directory with
        | .ok place => { quiet with here := place, directory := Octets.ofText (Place.path place) }
        | .error _ => quiet
      else quiet
    let (status, signal) ← runApart runner setup name words.tail
    match signal with
    | some signal =>
      report "find" (inQuotes name ++ " terminated by signal " ++
        toString (Signal.status signal - 128))
      return false
    | none => return status = 0

/-- Takes a file away. -/
def deleteFound (found : Found) : Shell Bool := do
  let session ← get
  let place := found.entity.place
  if found.path = "." then return true
  else if found.entity.isDirectory && !(session.files.namesIn place).isEmpty then
    report "find" ("cannot delete " ++ inQuotes found.path ++ ": Directory not empty")
    return false
  else
    set { session with files := session.files.remove place }
    return true

/-- Writes a text to a file. The first text takes the place of what is there. -/
def writeTo (search : Search) (path text : String) : Shell Search := do
  match ← saveTo path (search.written.contains path) text with
  | .ok () => return { search with written := path :: search.written }
  | .error cause =>
    report "find" (inQuotes path ++ ": " ++ cause)
    return { search with hasFailed := true }

/-- The line for a file in a long list. -/
def listLine (session : Session) (found : Found) : String :=
  let entity := found.entity
  let target := match entity.inode.node with
    | .link target => " -> " ++ Octets.ofText target
    | _ => ""
  padded 9 entity.number ++ " " ++ padded 6 entity.blocks ++ " " ++ entity.modeText ++ " " ++
    padded 3 (entity.linkCount session.files) ++ " root     root     " ++ padded 8 entity.size ++
    " " ++ entity.timeText "%b %e %H:%M" ++ " " ++ found.path ++ target ++ "\n"

/-- Does something with a file. -/
def act (runner : Runner) (search : Search) (found : Found) (action : Action) :
    Shell (Bool × Search) := do
  match action with
  | .print ending =>
    Shell.put (found.path ++ ending)
    return (true, search)
  | .describe format =>
    Shell.put (described (← get) found format)
    return (true, search)
  | .list =>
    Shell.put (listLine (← get) found)
    return (true, search)
  | .printTo path ending => return (true, ← writeTo search path (found.path ++ ending))
  | .describeTo path format =>
    return (true, ← writeTo search path (described (← get) found format))
  | .delete =>
    let isDone ← deleteFound found
    return (isDone, if isDone then search else { search with hasFailed := true })
  | .run inPlace asks command => return (← runWith runner inPlace asks command found, search)
  | .gather number => return (true, { search with kept := (number, found.path) :: search.kept })
  | .prune => return (true, { search with isPruned := true })
  | .quit => return (true, { search with isOver := true })

/-- Evaluates an expression at a file. -/
def evaluate (runner : Runner) (found : Found) : Criterion → Search → Shell (Bool × Search)
  | .test question, search => do return (question.holds (← get) found, search)
  | .act action, search => act runner search found action
  | .not inner, search => do
    let (answer, search) ← evaluate runner found inner search
    return (!answer, search)
  | .and first second, search => do
    let (answer, search) ← evaluate runner found first search
    if answer && !search.isOver then evaluate runner found second search
    else return (answer, search)
  | .or first second, search => do
    let (answer, search) ← evaluate runner found first search
    if answer || search.isOver then return (answer, search)
    else evaluate runner found second search
  | .both first second, search => do
    let (answer, search) ← evaluate runner found first search
    if search.isOver then return (answer, search) else evaluate runner found second search

/-! ## The search -/

mutual

/-- Goes through what is at and below a path, as far as the fuel goes. -/
def visit (runner : Runner) (plan : Plan) :
    Nat → String → Nat → String → Search → Shell Search
  | 0, _, _, _, search => return search
  | fuel + 1, start, depth, path, search => do
    if search.isOver then return search
    let session ← get
    let follows := plan.follows || (depth = 0 && plan.followsGiven)
    let reached := Entity.ofPath session follows path
    let reached := match reached with
      | .ok _ => reached
      | .error _ => Entity.ofPath session false path
    match reached with
    | .error cause =>
      report "find" (inQuotes path ++ ": " ++ cause.summary)
      return { search with hasFailed := true }
    | .ok entity =>
      let place := if follows then (session.locate path).toOption.getD entity.place
        else entity.place
      let found : Found := ⟨start, depth, { entity with place := place }⟩
      let isWanted := decide (plan.least ≤ depth)
      let enters := entity.isDirectory && !plan.most.any (· ≤ depth)
      let names := (session.files.namesIn place).map fun name =>
        inDirectory path (Octets.ofText name)
      if plan.isDeep then
        let search ← if enters then visitAll runner plan fuel start (depth + 1) names search
          else pure search
        if isWanted && !search.isOver then
          let (_, search) ← evaluate runner found plan.criterion search
          return search
        else return search
      else
        let (_, search) ← if isWanted then
            evaluate runner found plan.criterion { search with isPruned := false }
          else pure (true, { search with isPruned := false })
        if enters && !search.isPruned && !search.isOver then
          visitAll runner plan fuel start (depth + 1) names search
        else return search

/-- Goes through what is at and below some paths. -/
def visitAll (runner : Runner) (plan : Plan) :
    Nat → String → Nat → List String → Search → Shell Search
  | 0, _, _, _, search => return search
  | _, _, _, [], search => return search
  | fuel + 1, start, depth, path :: rest, search => do
    let search ← visit runner plan fuel start depth path search
    visitAll runner plan fuel start depth rest search

end

/-- Runs a program with the files that have been kept for it. The result tells whether it has
failed. -/
def runGathered (runner : Runner) (command paths : List String) : Shell Bool := do
  let name := command.headD ""
  if paths.isEmpty then return false
  match startFault? (← get) name with
  | some (cause, _) =>
    report "find" (inQuotes name ++ ": " ++ cause)
    return true
  | none =>
    let (status, _) ← runApart runner id name (command.tail ++ paths)
    return status ≠ 0

end Find

open Find in
/-- Finds files. -/
def find : Program := fun runner arguments => do
  let session ← get
  match planOf session arguments with
  | .error message => quit "find" 1 message
  | .ok plan =>
    let fuel := 4 * session.files.names.length + 100
    let mut search : Search := ⟨false, false, false, [], []⟩
    for path in plan.criterion.files do
      search ← writeTo search path ""
    for start in plan.starts do
      search ← visit runner plan fuel start 0 start search
    let mut hasFailed := search.hasFailed
    for (number, command) in plan.gathering do
      let paths := (search.kept.filter fun entry => entry.1 = number).map Prod.snd
      if ← runGathered runner command paths.reverse then hasFailed := true
    Shell.finish (if hasFailed then 1 else 0)

/-- The program that finds files. -/
def findTable : List (String × Program) := [("find", find)]

end Compositor.Script.Programs
