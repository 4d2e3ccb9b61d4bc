import Compositor.Simulation.Script.Meaning
import Compositor.Simulation.Script.Redirecting

set_option autoImplicit false

/-!
# Running commands

Commands run in a session. What runs apart, such as the commands of a pipeline, is a process of its
own: it begins with the session and shares only the machine. A bound on the depth keeps every run
finite: whatever a command runs, and every round of a loop after the first, lies one step deeper.

## Main definitions

* `Script.Runner`, `Script.Program` — what programs do.
* `Script.execute` — runs a command.
* `Script.substitute` — runs commands for what they write.
* `Script.invoke` — runs a command by its name.
* `Script.runFile` — runs a program in place of the shell.
* `Script.run` — runs a script on a machine.
-/

namespace Compositor.Script

/-- How a program lets another one, with a name and arguments, take its place. -/
abbrev Runner := String → Utility

/-- What a program does. -/
abbrev Program := Runner → Utility

/-- How a command runs. -/
structure Manner where
  /-- Whether the command around it looks at its status. -/
  tested : Bool
  /-- Whether nothing comes after it in its process. -/
  last : Bool

/-- How a command runs after which others come. -/
def Manner.within (manner : Manner) : Manner :=
  { manner with last := false }

/-- How a command runs at whose status the command around it looks. -/
def Manner.condition : Manner := ⟨true, false⟩

/-- How a command runs that is all its process does. -/
def Manner.alone : Manner := ⟨false, true⟩

/-- Ends the shell if a command has failed, the option for this is on, and nobody looks at the
status. -/
def settle (manner : Manner) : Shell Unit := do
  let session ← get
  if session.status ≠ 0 && session.options.contains 'e' && !manner.tested then throw .leave

/-- Sets the status to its opposite. -/
def invert : Shell Unit := do
  Shell.finish (if (← get).status = 0 then 1 else 0)

/-! ## Words that are assignments -/

/-- Whether a word has the form of an assignment. -/
def isAssignment (word : Word Command) : Bool :=
  match word.head? with
  | some (.text content) =>
    let name := content.toList.takeWhile (· != '=')
    Session.isVariable (String.ofList name) && name.length < content.length
  | _ => false

/-- The commands that take assignments as their arguments. -/
def assigners : List String := ["export", "readonly", "local"]

/-! ## Loops -/

/-- How a loop goes on. -/
inductive Course where
  /-- With its next round. -/
  | proceed
  /-- It ends. -/
  | stop
deriving DecidableEq

/-- Runs something in a loop. -/
def inLoop (action : Shell Unit) : Shell Course := do
  modify fun session => { session with loops := session.loops + 1 }
  let escape ← Shell.attempt action
  modify fun session => { session with loops := session.loops - 1 }
  match escape with
  | none => return .proceed
  | some (.brokenOut levels) =>
    if levels ≤ 1 then return .stop else throw (.brokenOut (levels - 1))
  | some (.continued levels) =>
    if levels ≤ 1 then return .proceed else throw (.continued (levels - 1))
  | some escape => throw escape

/-- Runs something for each of some values of a variable. -/
def forEach (name : String) (action : Shell Unit) : List String → Shell Unit
  | [] => pure ()
  | value :: rest => do
    Shell.spend 1
    Shell.assign name value
    match ← inLoop action with
    | .proceed => forEach name action rest
    | .stop => pure ()

/-! ## Ends -/

/-- Whether the shell that is left so does nothing more. -/
def endsAtOnce : Option Escape → Bool
  | some .exhausted | some (.killed _) => true
  | _ => false

/-- Waits for a process in the foreground, and takes its status. -/
def awaitForeground (number : Nat) : Shell Unit := do
  let (status, signal) ← Shell.awaitProcess number
  let text := (signal.map Signal.obituary).getD ""
  if text ≠ "" then Shell.write 2 (text ++ "\n")
  Shell.finish status

/-- Runs a command of the shell, which names itself in diagnostics. -/
def active (name : String) (action : Shell Unit) : Shell Unit := do
  let before := (← get).activity
  modify fun session => { session with activity := some name }
  let escape ← Shell.attempt action
  if (← get).obstacle.isSome then
    modify fun session => { session with obstacle := none }
    Shell.complain (name ++ ": I/O error")
    Shell.finish 1
  modify fun session => { session with activity := before }
  Shell.resume escape

/-- Goes on after a failure, which has set the status. -/
def enduring (action : Shell Unit) : Shell Unit := do
  let escape ← Shell.attempt action
  if escape ≠ some .failed then Shell.resume escape

/-- Ends a command that does not exist or cannot be run. -/
def refuseCommand (name : String) : Shell Unit := do
  let present := (filePath? (← get) name).isSome
  Shell.complain (name ++ if present then ": Permission denied" else ": not found")
  Shell.finish (if present then 126 else 127)

/-- The greatest number of functions that can run within each other. -/
def depthLimit : Nat := 10000

/-! ## Processes -/

/-- Makes a place for another job. A job that has been waited for gives way. -/
def Session.addJob (session : Session) (numbers : List Nat) : Session :=
  let left := match (session.jobs.filter fun job => job.isWaited && job.isDone).getLast? with
    | some old => session.jobs.filter fun job => job.index ≠ old.index
    | none => session.jobs
  let taken := left.map Job.index
  let index := ((List.range (left.length + 1)).map (· + 1)).find? fun n => !taken.contains n
  { session with
    jobs := ⟨index.getD 1, numbers.map fun number => ⟨number, none⟩, false⟩ :: left
    lastJob := numbers.getLast? }

/-- The session of a shell that begins within another one. -/
def Session.nested (session : Session) (name : String) : Session :=
  { session with
    isShell := true
    process := session.self
    name := name
    arguments := []
    fixed := []
    functions := []
    aliases := []
    status := 0
    substituted := 0
    line := 1
    activity := none
    obstacle := none
    options := []
    traps := session.traps.filter fun entry => entry.2 == ""
    caught := []
    loops := 0
    depth := 0
    frames := []
    jobs := []
    lastJob := none
    optionIndex := 1
    optionOffset := none
    remembered := [] }.withEnvironment session.environment

/-- The session of a program that takes the place of a shell. -/
def Session.inProgram (session : Session) : Session :=
  { session with
    isShell := false
    assignments := session.environment
    activity := none
    obstacle := none
    traps := session.traps.filter fun entry => entry.2 == ""
    caught := []
    jobs := []
    options := [] }

/-! ## Commands -/

section

variable (programs : String → Option Program)

mutual

/-- Runs a command. -/
def execute : Nat → Manner → Command → Shell Unit
  | 0, _, _ => throw .exhausted
  | fuel + 1, manner, command => do
    if (← get).options.contains 'n' then return
    match command with
    | .simple line assignments words redirections =>
      Shell.spend Shell.commandTime
      modify fun session => { session with line := line, substituted := 0 }
      let arguments ← expandAll fuel words []
      traceCommand fuel assignments arguments
      match arguments with
      | [] =>
        redirecting (substitute fuel) redirections false do
          assignAll (substitute fuel) false assignments
          Shell.finish (← get).substituted
      | name :: arguments =>
        if name = "exec" && arguments.isEmpty then
          match ← redirect (substitute fuel) redirections with
          | none =>
            assignAll (substitute fuel) false assignments
            Shell.finish 0
          | some message => Shell.fail message
        else
          match meaning (← get) name with
          | .special =>
            redirecting (substitute fuel) redirections true do
              assignAll (substitute fuel) false assignments
              invoke fuel manner true name arguments
          | _ =>
            redirecting (substitute fuel) redirections false do
              assigning (substitute fuel) assignments (invoke fuel manner true name arguments)
      settle manner
    | .pipeline negated commands =>
      match commands with
      | [single] =>
        execute fuel { tested := manner.tested || negated, last := false } single
      | _ => runPipeline fuel manner commands none []
      if negated then invert else settle manner
    | .andThen first second =>
      execute fuel .condition first
      if (← get).status = 0 then execute fuel manner second
    | .orElse first second =>
      execute fuel .condition first
      if (← get).status ≠ 0 then execute fuel manner second
    | .background command =>
      let commands := match command with
        | .pipeline false commands => commands
        | command => [command]
      let input := (← get).streams.size
      modify fun session =>
        let (index, machine) := session.addStream .nothing
        { session with toMachine := machine, held := index :: session.held }
      let numbers ← startPipeline fuel commands (some input) []
      modify fun session =>
        { session with held := session.held.erase input }.addJob numbers
      Shell.finish 0
    | .subshell commands =>
      if manner.last && (← get).traps.isEmpty then executeAll fuel manner commands
      else
        Shell.spend Shell.forkTime
        let child ← Shell.fork id (inChild fuel (executeAll fuel ⟨manner.tested, true⟩ commands))
        awaitForeground child
      settle manner
    | .group commands => executeAll fuel manner commands
    | .choose condition positive negative =>
      executeAll fuel .condition condition
      if (← get).status = 0 then executeAll fuel manner positive
      else
        Shell.finish 0
        executeAll fuel manner negative
    | .loop untilSuccess condition body =>
      runLoop fuel manner.within untilSuccess condition body 0
    | .each name words body =>
      let values ← match words with
        | some words => expandAll fuel words []
        | none => pure (← get).arguments
      Shell.finish 0
      forEach name (executeAll fuel manner.within body) values
    | .select word clauses =>
      let subject ← textOf (substitute fuel) word
      Shell.finish 0
      selectClause fuel manner subject.toList clauses
    | .define name body =>
      modify fun session =>
        { session with
          functions := (name, body) :: session.functions.filter fun entry => entry.1 ≠ name }
      Shell.finish 0
    | .redirected command redirections =>
      redirecting (substitute fuel) redirections false (execute fuel manner.within command)
      settle manner
    attend fuel

/-- Does what is to be done about the signals that have come. -/
def attend : Nat → Shell Unit
  | 0 => throw .exhausted
  | fuel + 1 => do
    let session ← get
    match session.caught with
    | [] => pure ()
    | signal :: rest =>
      set { session with caught := rest }
      match session.traps.lookup signal with
      | none => pure ()
      | some action =>
        runText fuel ⟨false, false⟩ action
        Shell.finish session.status
      attend fuel

/-- Runs commands one after another. -/
def executeAll : Nat → Manner → List Command → Shell Unit
  | 0, _, _ => throw .exhausted
  | _, _, [] => pure ()
  | fuel + 1, manner, [command] => execute fuel manner command
  | fuel + 1, manner, command :: rest => do
    execute fuel manner.within command
    executeAll fuel manner rest

/-- Runs a loop, given the status of its last round. -/
def runLoop : Nat → Manner → Bool → List Command → List Command → Nat → Shell Unit
  | 0, _, _, _, _, _ => throw .exhausted
  | fuel + 1, manner, untilSuccess, condition, body, last => do
    match ← inLoop (executeAll fuel .condition condition) with
    | .stop => Shell.finish 0
    | .proceed =>
      if ((← get).status == 0) == untilSuccess then Shell.finish last
      else
        match ← inLoop (executeAll fuel manner body) with
        | .stop => Shell.finish 0
        | .proceed =>
          let status := (← get).status
          runLoop fuel manner untilSuccess condition body status

/-- Runs the commands of the first clause with a pattern that a text fits. -/
def selectClause : Nat → Manner → List Char → List (List (Word Command) × List Command) →
    Shell Unit
  | 0, _, _, _ => throw .exhausted
  | _, _, _, [] => pure ()
  | fuel + 1, manner, subject, (patterns, body) :: rest => do
    if ← fitsAny fuel subject patterns then executeAll fuel manner body
    else selectClause fuel manner subject rest

/-- Whether a text fits one of some patterns. -/
def fitsAny : Nat → List Char → List (Word Command) → Shell Bool
  | 0, _, _ => throw .exhausted
  | _, _, [] => return false
  | fuel + 1, subject, pattern :: rest => do
    if (← patternOf (substitute fuel) pattern).fits subject then return true
    else fitsAny fuel subject rest

/-- Does what a process of its own does, and what is to be done at its end. -/
def inChild : Nat → Shell Unit → Shell Unit
  | 0, _ => throw .exhausted
  | fuel + 1, action => do
    let escape ← Shell.attempt action
    if endsAtOnce escape then Shell.resume escape else atEnd fuel

/-- Does what is to be done at the end of a shell. -/
def atEnd : Nat → Shell Unit
  | 0 => throw .exhausted
  | fuel + 1 => do
    let session ← get
    match session.traps.lookup "EXIT" with
    | none => pure ()
    | some action =>
      set { session with traps := session.traps.filter fun entry => entry.1 ≠ "EXIT" }
      let escape ← Shell.attempt (runText fuel ⟨false, false⟩ action)
      if endsAtOnce escape then Shell.resume escape
      else if escape ≠ some .leave then Shell.finish session.status

/-- Starts commands of which each reads what the one before it writes, the first one from a stream
with a number. The processes are returned after those that have been started before. -/
def startPipeline : Nat → List Command → Option Nat → List Nat → Shell (List Nat)
  | 0, _, _, _ => throw .exhausted
  | _, [], _, numbers => return numbers
  | fuel + 1, [command], input, numbers => do
    Shell.spend Shell.forkTime
    let child ← Shell.fork
      (fun session => if input.isSome then session.connect 0 input else session)
      (inChild fuel (execute fuel .alone command))
    return numbers ++ [child]
  | fuel + 1, command :: rest, input, numbers => do
    Shell.spend Shell.forkTime
    let before ← get
    let (pipe, machine) := before.addPipe true ByteArray.empty
    let (source, machine) := machine.addStream (.source pipe)
    let (sink, machine) := machine.addStream (.sink pipe)
    set { before with toMachine := machine, held := source :: before.held }
    let child ← Shell.fork
      (fun session =>
        (if input.isSome then session.connect 0 input else session).connect 1 (some sink))
      (inChild fuel (execute fuel .alone command))
    let numbers ← startPipeline fuel rest (some source) (numbers ++ [child])
    modify fun session => { session with held := session.held.erase source }
    return numbers

/-- Runs commands of which each reads what the one before it writes. -/
def runPipeline : Nat → Manner → List Command → Option Nat → List Nat → Shell Unit
  | 0, _, _, _, _ => throw .exhausted
  | fuel + 1, _, commands, input, started => do
    let before ← get
    let numbers ← startPipeline fuel commands input started
    for number in numbers do
      awaitForeground number
    modify fun session => session.reclaim before.streams.size before.pipes.size

/-- What commands write, without the ends of lines at its end. -/
def substitute : Nat → List Command → Shell String
  | 0, _ => throw .exhausted
  | fuel + 1, commands => do
    Shell.spend Shell.forkTime
    let before ← get
    let (pipe, machine) := before.addPipe false ByteArray.empty
    let (source, machine) := machine.addStream (.source pipe)
    let (sink, machine) := machine.addStream (.sink pipe)
    set { before with toMachine := machine, held := source :: before.held }
    let child ← Shell.fork (fun session => session.connect 1 (some sink))
      (inChild fuel (executeAll fuel .alone commands))
    Shell.await fun machine =>
      if machine.isHeld (Stream.writes pipe) then none else some machine.clock
    let (status, _) ← Shell.awaitProcess child
    let session ← get
    let content := ((session.pipes[pipe]?).map Pipe.content).getD ByteArray.empty
    set ({ session with
      substituted := status
      held := before.held }.reclaim before.streams.size before.pipes.size)
    let shown := (Octets.ofBytes content).toList.filter (· != '\x00')
    return String.ofList (shown.reverse.dropWhile (· == '\n')).reverse

/-- The fields of words, after some that have been found. -/
def expandAll : Nat → List (Word Command) → List String → Shell (List String)
  | 0, _, _ => throw .exhausted
  | _, [], found => return found
  | fuel + 1, word :: rest, found => do
    let next ←
      if found.head?.any assigners.contains && isAssignment word then
        (do return [← textOf (substitute fuel) word])
      else fields (substitute fuel) word
    expandAll fuel rest (found ++ next)

/-- Writes a command to the diagnostics if the option for this is on. -/
def traceCommand : Nat → List (String × Word Command) → List String → Shell Unit
  | 0, _, _ => throw .exhausted
  | fuel + 1, assignments, arguments => do
    let session ← get
    if session.options.contains 'x' then
      let mut shown := arguments
      for (name, word) in assignments.reverse do
        shown := (name ++ "=" ++ (← textOf (substitute fuel) word)) :: shown
      Shell.write 2 (session.value "PS4" ++ " ".intercalate shown ++ "\n")

/-- Runs a function. -/
def call : Nat → Manner → Command → List String → Shell Unit
  | 0, _, _, _ => throw .exhausted
  | fuel + 1, manner, body, arguments => do
    let before ← get
    if depthLimit < before.depth then throw (.killed "SEGV")
    set { before with
      arguments := arguments
      loops := 0
      depth := before.depth + 1
      frames := [] :: before.frames
      optionIndex := 1
      optionOffset := none }
    let escape ← Shell.attempt (execute fuel manner.within body)
    modify fun session =>
      let restored := (session.frames.headD []).foldl
        (fun session (name, value) =>
          if name = "-" then { session with options := (value.getD "").toList }
          else session.restore name value) session
      { restored with
        arguments := before.arguments
        loops := before.loops
        depth := before.depth
        frames := before.frames
        optionIndex := before.optionIndex
        optionOffset := before.optionOffset }
    match escape with
    | some .returned => pure ()
    | escape => Shell.resume escape

/-- Runs a command by its name. -/
def invoke : Nat → Manner → Bool → String → List String → Shell Unit
  | 0, _, _, _, _ => throw .exhausted
  | fuel + 1, manner, isPlain, name, arguments => do
    match meaning (← get) name with
    | .special =>
      let action := match special? name with
        | some utility => active name (utility arguments)
        | none => runSpecial fuel manner name arguments
      if isPlain then action else enduring action
    | .function body =>
      if isPlain then call fuel manner body arguments
      else
        match regular? name with
        | some utility => enduring (active name (utility arguments))
        | none => runProgram fuel manner name arguments
    | .regular =>
      match regular? name with
      | some utility => enduring (active name (utility arguments))
      | none => enduring (runRegular fuel manner name arguments)
    | .program path =>
      remember name path
      runProgram fuel manner name arguments
    | .unknown => refuseCommand name

/-- Runs one of the special commands that run others. -/
def runSpecial : Nat → Manner → String → List String → Shell Unit
  | 0, _, _, _ => throw .exhausted
  | fuel + 1, manner, name, arguments => do
    match name, arguments with
    | "eval", _ => active name (runText fuel manner.within (" ".intercalate arguments))
    | ".", [] => pure ()
    | ".", path :: _ =>
      let session ← get
      let found := if path.contains '/' then some path else filePath? session path
      match found.map session.contents with
      | some (.ok text) =>
        let escape ← Shell.attempt (active name (runText fuel manner.within text))
        if escape ≠ some .returned then Shell.resume escape
      | some (.error _) => active name (Shell.fail ("cannot open " ++ path ++ ": No such file"))
      | none => active name (Shell.fail (path ++ ": not found"))
    | _, [] => pure ()
    | _, command :: arguments =>
      active name (runFile fuel command arguments)
      modify fun session => { session with traps := [] }
      throw .leave

/-- Runs one of the other commands that need to know what names stand for. -/
def runRegular : Nat → Manner → String → List String → Shell Unit
  | 0, _, _, _ => throw .exhausted
  | fuel + 1, manner, name, arguments => do
    match name, arguments with
    | "type", names =>
      Shell.finish 0
      active name (names.forM (explain false))
    | "hash", _ => active name (hash arguments)
    | _, "-v" :: names =>
      Shell.finish 0
      active name ((names.take 1).forM (explain true))
    | _, "-V" :: names =>
      Shell.finish 0
      active name ((names.take 1).forM (explain false))
    | _, "--" :: command :: arguments
    | _, "-p" :: command :: arguments
    | _, command :: arguments => invoke fuel manner false command arguments
    | _, [] => Shell.finish 0

/-- Runs a program in a process of its own, or in that of the shell if nothing comes after it. -/
def runProgram : Nat → Manner → String → List String → Shell Unit
  | 0, _, _, _ => throw .exhausted
  | fuel + 1, manner, name, arguments => do
    if manner.last && (← get).traps.isEmpty then
      runFile fuel name arguments
      throw .leave
    else
      Shell.spend Shell.forkTime
      let child ← Shell.fork id (runFile fuel name arguments)
      awaitForeground child

/-- Runs a program in place of the shell. -/
def runFile : Nat → String → List String → Shell Unit
  | 0, _, _ => throw .exhausted
  | fuel + 1, name, arguments => do
    match (← get).program? name with
    | none => refuseCommand name
    | some path => runPath fuel path name arguments

/-- Runs the file at a path in place of the shell. -/
def runPath : Nat → String → String → List String → Shell Unit
  | 0, _, _, _ => throw .exhausted
  | fuel + 1, path, name, arguments => do
    let session ← get
    let content := (session.contents path).toOption.getD ""
    match compiledName? content, interpreter? content with
    | none, none => runShell fuel "sh" (path :: arguments)
    | none, some (runner, first) =>
      if session.canRun runner then runPath fuel runner runner (first ++ path :: arguments)
      else
        Shell.complain (name ++ ": not found")
        Shell.finish 127
    | some compiled, _ =>
      Shell.spend Shell.programTime
      if compiled = "sh" || compiled = "dash" then runShell fuel name arguments
      else
        modify Session.inProgram
        match programs compiled with
        | some program =>
          program (fun name arguments => runFile fuel name arguments) arguments
          match (← get).obstacle with
          | some cause =>
            modify fun session => { session with obstacle := none }
            Shell.write 2 (compiled ++ ": write error: " ++ cause ++ "\n")
            Shell.finish 1
          | none => pure ()
        | none => Shell.finish 126

/-- Runs a shell in place of the shell. It knows only the variables that programs see. -/
def runShell : Nat → String → List String → Shell Unit
  | 0, _, _ => throw .exhausted
  | fuel + 1, name, arguments => do
    modify fun session => session.nested name
    inChild fuel do
      let taken ← Builtins.takeOptions true arguments.length arguments
      match taken.rest with
      | [] =>
        if taken.isCommand then
          modify fun session => { session with line := 0 }
          Shell.fail "-c requires an argument"
        Builtins.setOption true 's'
        runText fuel .alone (← Shell.takeAll)
      | first :: rest =>
        if taken.isCommand then
          modify fun session =>
            { session with name := rest.head?.getD name, arguments := rest.tail }
          runText fuel .alone first
        else if (← get).options.contains 's' then
          modify fun session => { session with arguments := first :: rest }
          runText fuel .alone (← Shell.takeAll)
        else
          match (← get).contents first with
          | .ok text =>
            modify fun session => { session with name := first, arguments := rest }
            runText fuel .alone text
          | .error _ =>
            modify fun session => { session with line := 0 }
            Shell.fail ("cannot open " ++ first ++ ": No such file")

/-- Runs a script. -/
def runText : Nat → Manner → String → Shell Unit
  | 0, _, _ => throw .exhausted
  | fuel + 1, manner, text => do
    let characters := Source.marked text.toList
    let lines := Source.lineCount characters
    match nextLine ⟨lines, []⟩ characters with
    | .finished => Shell.finish 0
    | _ => runLines fuel manner lines characters

/-- Runs the lines of a marked script. -/
def runLines : Nat → Manner → Nat → List Char → Shell Unit
  | 0, _, _, _ => throw .exhausted
  | fuel + 1, manner, lines, characters => do
    match nextLine ⟨lines, (← get).aliases⟩ characters with
    | .finished => pure ()
    | .unreadable line =>
      modify fun session => { session with line := line }
      Shell.fail "Syntax error"
    | .commands commands rest =>
      let isLast := ((do newlines; Source.done : Reader Unit) rest).isSome
      executeAll fuel { manner with last := manner.last && isLast } commands
      runLines fuel manner lines rest

end

end

/-- The bound on the depth of a run. -/
def depthBound : Nat := 100000000

/-- The bound on the steps of all processes. -/
def stepBound : Nat := 100000000

/-- The machine after a script has run in a session, up to the time at which enough has happened. -/
def run (programs : String → Option Program) (isEnough : Machine → Bool) (session : Session)
    (text : String) : Machine :=
  let whole : Shell Unit := inChild programs depthBound (runText programs depthBound .alone text)
  Process.run isEnough stepBound none
    (whole session fun _ after => .ended (after.finish after.self after.status none)) []

end Compositor.Script
