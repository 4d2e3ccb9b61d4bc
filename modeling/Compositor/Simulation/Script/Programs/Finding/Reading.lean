import Compositor.Simulation.Script.Programs.Finding.Basic
import Compositor.Simulation.Script.Programs.Making

set_option autoImplicit false

/-!
# Reading what is to be found

An expression is given by arguments: questions and actions with their values, signs for the opposite,
for both and for one of two, and brackets.

## Main definitions

* `Script.Programs.Find.Progress` — what has been read.
* `Script.Programs.Find.primary` — reads a question or an action.
* `Script.Programs.Find.planOf` — the plan of a search that arguments give.
-/

namespace Compositor.Script.Programs.Find

/-- What has been read of an expression, and what is known from it. -/
structure Progress where
  /-- The arguments that are left. -/
  rest : List String
  /-- The plan as far as it is known. -/
  plan : Plan
  /-- How regular expressions are written. -/
  kind : String

/-- What is read from arguments: a value and what is known then, or what is wrong. -/
abbrev Reading (α : Type) := StateT Progress (Except String) α

/-! ## Values -/

/-- The argument of a question or an action. -/
def value (name : String) : Reading String := do
  let progress ← get
  match progress.rest with
  | [] => throw ("missing argument to \x60" ++ name ++ "\x27")
  | text :: rest =>
    set { progress with rest := rest }
    return text

/-- An argument that is a number which is compared. -/
def amount (name text : String) : Reading Amount := do
  let (order, digits) : Ordering × List Char := match text.toList with
    | '+' :: digits => (.gt, digits)
    | '-' :: digits => (.lt, digits)
    | digits => (.eq, digits)
  if digits.isEmpty || !digits.all Char.isDigit then
    throw ("invalid argument \x60" ++ text ++ "\x27 to \x60" ++ name ++ "\x27")
  return ⟨order, ofDigits 10 digits⟩

/-- The pattern that a text writes down. -/
def pattern (ignoresCase : Bool) (text : String) : Pattern :=
  .ofMarked ((if ignoresCase then text.toList.map Char.toLower else text.toList).map (·, true))

/-- An expression in which plus and question marks have their meaning without a backslash, in the
basic way. -/
def withSigns : List Char → List Char
  | [] => []
  | '\\' :: c :: rest =>
    (if c = '+' || c = '?' then [c] else ['\\', c]) ++ withSigns rest
  | c :: rest => (if c = '+' || c = '?' then ['\\', c] else [c]) ++ withSigns rest

/-- The regular expression that a text writes down in some way. -/
def expression (kind : String) (ignoresCase : Bool) (text : String) : Reading Regular := do
  let isExtended := ["posix-extended", "posix-egrep", "egrep", "awk", "gnu-awk", "posix-awk",
    "posix-minimal-basic"].contains kind
  let isBasic := ["posix-basic", "grep", "ed", "sed"].contains kind
  let written := if isExtended || isBasic then text else String.ofList (withSigns text.toList)
  match Regular.ofText ⟨isExtended, false, false, false, fun _ => none⟩ written with
  | .ok found => return if ignoresCase then found.withoutCase else found
  | .error message => throw message

/-- The size in bytes of a unit of sizes. -/
def unitOf : Char → Option Nat
  | 'b' => some 512
  | 'c' => some 1
  | 'w' => some 2
  | 'k' => some 1024
  | 'M' => some 1048576
  | 'G' => some 1073741824
  | _ => none

/-- A test of the size. -/
def sizeTest (text : String) : Reading Test := do
  match text.toList.getLast?.bind unitOf with
  | some unit => return .size unit (← amount "-size" (String.ofList text.toList.dropLast))
  | none => return .size 512 (← amount "-size" text)

/-- A test of the permissions. -/
def modeTest (text : String) : Reading Test := do
  let (agreement, body) : Agreement × String := match text.toList with
    | '-' :: rest => (.all, String.ofList rest)
    | '/' :: rest => (.some, String.ofList rest)
    | _ => (.same, text)
  match Mode.change? false 0 body 0 with
  | some bits => return .permits agreement (bits &&& 0xfff)
  | none => throw ("invalid mode " ++ inQuotes text)

/-- The letters of kinds, with commas between them. -/
def kindTest (name text : String) : Reading (List Char) := do
  let letters := (text.splitOn ",").map String.toList
  for letter in letters do
    match letter with
    | [c] =>
      if !(['b', 'c', 'd', 'p', 'f', 'l', 's', 'D'].contains c) then
        throw ("Unknown argument to " ++ name ++ ": " ++ String.singleton c)
    | _ => throw ("Must separate multiple arguments to " ++ name ++ " using: \x27,\x27")
  return letters.flatten

/-- The words of a command up to its end, and whether it takes many files. -/
def command (name : String) : Reading (List String × Bool) := do
  let progress ← get
  let words := progress.rest
  let single := words.findIdx? (· = ";")
  let many := ((List.range words.length).find? fun n =>
    words[n]? == some "+" && 0 < n && words[n - 1]? == some "\x7b\x7d")
  let (end_, takesMany) : Option Nat × Bool := match single, many with
    | some a, some b => if b < a then (some b, true) else (some a, false)
    | some a, none => (some a, false)
    | none, some b => (some b, true)
    | none, none => (none, false)
  match end_ with
  | none | some 0 => throw ("missing argument to \x60" ++ name ++ "\x27")
  | some n =>
    set { progress with rest := words.drop (n + 1) }
    return (words.take n, takesMany)

/-- A number of directories. -/
def level (name : String) : Reading Nat := do
  let text ← value name
  match text.toNat? with
  | some n => return n
  | none =>
    throw ("Expected a positive decimal integer argument to " ++ name ++ ", but got " ++
      inQuotes text)

/-- The time at which a file was changed. -/
def timeOf (session : Session) (path : String) : Reading Nat := do
  match session.inode? path with
  | some (_, inode) => return inode.time
  | none => throw (inQuotes path ++ ": " ++ FileError.notFound.summary)

/-- Changes the plan. -/
def planning (update : Plan → Plan) : Reading Criterion := do
  modify fun progress => { progress with plan := update progress.plan }
  return .test (.constant true)

/-! ## Questions and actions -/

/-- Reads the question or the action of a name. -/
def primary (session : Session) (name : String) : Reading Criterion := do
  let ask (test : Test) : Reading Criterion := return .test test
  let caseless := name.startsWith "-i"
  match name with
  | "-true" => ask (.constant true)
  | "-false" => ask (.constant false)
  | "-name" | "-iname" => ask (.named caseless (pattern caseless (← value name)))
  | "-path" | "-wholename" | "-ipath" | "-iwholename" =>
    ask (.at_ caseless (pattern caseless (← value name)))
  | "-regex" | "-iregex" =>
    let kind := (← get).kind
    ask (.fits (← expression kind caseless (← value name)))
  | "-lname" | "-ilname" => ask (.leadsTo caseless (pattern caseless (← value name)))
  | "-type" => ask (.kind false (← kindTest name (← value name)))
  | "-xtype" => ask (.kind true (← kindTest name (← value name)))
  | "-size" => ask (← sizeTest (← value name))
  | "-empty" => ask .empty
  | "-newer" | "-anewer" | "-cnewer" | "-newermm" =>
    ask (.newer (← timeOf session (← value name)))
  | "-newermt" =>
    let text ← value name
    match momentOf? session text with
    | some time => ask (.newer time)
    | none => throw ("I cannot figure out how to interpret " ++ inQuotes text ++
        " as a date or time")
  | "-mtime" | "-atime" | "-ctime" => ask (.age 86400 false (← amount name (← value name)))
  | "-mmin" | "-amin" | "-cmin" => ask (.age 60 true (← amount name (← value name)))
  | "-perm" => ask (← modeTest (← value name))
  | "-links" => ask (.links (← amount name (← value name)))
  | "-inum" => ask (.number (← amount name (← value name)))
  | "-samefile" =>
    let path ← value name
    match session.inode? path with
    | some (number, _) => ask (.number ⟨.eq, number⟩)
    | none => throw (inQuotes path ++ ": " ++ FileError.notFound.summary)
  | "-uid" | "-gid" => ask (.owner (← amount name (← value name)))
  | "-user" | "-group" =>
    let text ← value name
    if text = "root" then ask (.owner ⟨.eq, 0⟩)
    else if text.toNat?.isSome then ask (.owner (← amount name text))
    else throw (inQuotes text ++ " is not the name of a known " ++ dropFront 1 name)
  | "-nouser" | "-nogroup" => ask (.constant false)
  | "-readable" => ask (.can 4)
  | "-writable" => ask (.can 2)
  | "-executable" => ask (.can 1)
  | "-print" => return .act (.print "\n")
  | "-print0" => return .act (.print "\x00")
  | "-printf" => return .act (.describe (← value name))
  | "-fprint" => return .act (.printTo (← value name) "\n")
  | "-fprint0" => return .act (.printTo (← value name) "\x00")
  | "-fprintf" =>
    let path ← value name
    return .act (.describeTo path (← value name))
  | "-ls" => return .act .list
  | "-prune" => return .act .prune
  | "-quit" => return .act .quit
  | "-delete" =>
    let _ ← planning fun plan => { plan with isDeep := true }
    return .act .delete
  | "-exec" | "-execdir" | "-ok" | "-okdir" =>
    let (words, takesMany) ← command name
    if takesMany && name = "-exec" then
      let number := (← get).plan.gathering.length
      let _ ← planning fun plan =>
        { plan with gathering := plan.gathering ++ [(number, words.dropLast)] }
      return .act (.gather number)
    else return .act (.run (name.endsWith "dir") (name.startsWith "-ok") words)
  | "-maxdepth" =>
    let n ← level name
    planning fun plan => { plan with most := some n }
  | "-mindepth" =>
    let n ← level name
    planning fun plan => { plan with least := n }
  | "-depth" | "-d" => planning fun plan => { plan with isDeep := true }
  | "-follow" => planning fun plan => { plan with follows := true, followsGiven := true }
  | "-mount" | "-xdev" | "-noleaf" | "-daystart" | "-warn" | "-nowarn" | "-ignore_readdir_race"
  | "-noignore_readdir_race" => ask (.constant true)
  | "-regextype" =>
    let kind ← value name
    modify fun progress => { progress with kind := kind }
    ask (.constant true)
  | _ =>
    if name.startsWith "-" then throw ("unknown predicate \x60" ++ name ++ "\x27")
    else throw ("paths must precede expression: \x60" ++ name ++ "\x27")

/-! ## Expressions -/

/-- What is wrong with a sign that nothing follows. -/
def missingAfter (sign : String) : String :=
  "expected an expression after " ++ inQuotes sign

/-- Whether an argument ends what is joined by a sign. -/
def endsList (word : String) : Bool :=
  [")", ",", "-o", "-or"].contains word

mutual

/-- Reads expressions of which the last one has the answer. -/
def lists (session : Session) : Nat → Reading Criterion
  | 0 => throw "expression too long"
  | fuel + 1 => do
    let first ← alternatives session fuel
    let progress ← get
    match progress.rest with
    | "," :: rest =>
      set { progress with rest := rest }
      if rest.isEmpty then throw (missingAfter ",")
      return .both first (← lists session fuel)
    | _ => return first

/-- Reads expressions of which one must hold. -/
def alternatives (session : Session) : Nat → Reading Criterion
  | 0 => throw "expression too long"
  | fuel + 1 => do
    let first ← conjunction session fuel
    let progress ← get
    match progress.rest with
    | word :: rest =>
      if word = "-o" || word = "-or" then
        set { progress with rest := rest }
        if rest.isEmpty then throw (missingAfter word)
        return .or first (← alternatives session fuel)
      else return first
    | [] => return first

/-- Reads expressions that must all hold. -/
def conjunction (session : Session) : Nat → Reading Criterion
  | 0 => throw "expression too long"
  | fuel + 1 => do
    let first ← negation session fuel
    let progress ← get
    match progress.rest with
    | [] => return first
    | word :: rest =>
      if endsList word then return first
      else if word = "-a" || word = "-and" then
        set { progress with rest := rest }
        if rest.isEmpty then throw (missingAfter word)
        return .and first (← conjunction session fuel)
      else return .and first (← conjunction session fuel)

/-- Reads an expression without signs between expressions. -/
def negation (session : Session) : Nat → Reading Criterion
  | 0 => throw "expression too long"
  | fuel + 1 => do
    let progress ← get
    match progress.rest with
    | [] => throw "expected an expression"
    | word :: rest =>
      set { progress with rest := rest }
      if word = "!" || word = "-not" then
        if rest.isEmpty then throw (missingAfter word)
        return .not (← negation session fuel)
      else if word = "(" then
        let unclosed := "invalid expression; expected to find a \x27)\x27 but didn\x27t see one. " ++
          "Perhaps you need an extra predicate after \x27(\x27"
        if rest.isEmpty then throw unclosed
        if rest.head? == some ")" then
          throw "invalid expression; empty parentheses are not allowed."
        let inner ← lists session fuel
        let after ← get
        match after.rest with
        | ")" :: others =>
          set { after with rest := others }
          return inner
        | _ => throw unclosed
      else if word = ")" then
        throw "invalid expression; you have too many \x27)\x27"
      else if ["-a", "-and", "-o", "-or", ","].contains word then
        throw ("invalid expression; you have used a binary operator " ++ inQuotes word ++
          " with nothing before it.")
      else primary session word

end

/-- Whether an argument begins an expression. -/
def beginsExpression (word : String) : Bool :=
  (word.startsWith "-" && word ≠ "-") || word = "(" || word = "!"

/-- The plan of a search that arguments give. -/
def planOf (session : Session) (arguments : List String) : Except String Plan := do
  let isSetting (word : String) : Bool :=
    ["-H", "-L", "-P", "-O0", "-O1", "-O2", "-O3"].contains word
  let settings := arguments.takeWhile isSetting
  let rest := arguments.drop settings.length
  let last := (settings.filter fun word => !word.startsWith "-O").getLast?
  let starts := rest.takeWhile fun word => !beginsExpression word
  let words := rest.drop starts.length
  let plan : Plan :=
    { starts := if starts.isEmpty then ["."] else starts
      follows := last == some "-L"
      followsGiven := last == some "-L" || last == some "-H"
      least := 0
      most := none
      isDeep := false
      criterion := .test (.constant true)
      gathering := [] }
  let (criterion, progress) ←
    if words.isEmpty then pure (plan.criterion, (⟨[], plan, ""⟩ : Progress))
    else (lists session (6 * words.length + 8)).run ⟨words, plan, ""⟩
  match progress.rest with
  | [] => pure ()
  | ")" :: _ => throw "invalid expression; you have too many \x27)\x27"
  | word :: _ => throw ("paths must precede expression: \x60" ++ word ++ "\x27")
  let whole := if criterion.writes then criterion
    else Criterion.and criterion (.act (.print "\n"))
  return { progress.plan with criterion := whole }

end Compositor.Script.Programs.Find
