import Compositor.Simulation.Script.Programs.Basic
import Compositor.Simulation.Script.Signal

set_option autoImplicit false

/-!
# Programs that start other programs

## Main definitions

* `Script.Programs.runApart` — runs a program and waits until it has ended.
* `Script.Programs.Batch.split` — puts items into commands.
* `Script.Programs.xargs` — runs a command with arguments that are read.
* `Script.Programs.env` — runs a program with other variables.
* `Script.Programs.timeout` — runs a program for some time.
-/

namespace Compositor.Script.Programs

/-! ## Starting programs -/

/-- Why a program cannot be started, and the status that tells so. -/
def startFault? (session : Session) (name : String) : Option (String × Nat) :=
  if (session.program? name).isSome then none
  else if (filePath? session name).isSome then some ("Permission denied", 126)
  else some (FileError.notFound.summary, 127)

/-- Runs a program in a process of its own and waits until it has ended. The result is its status,
and the signal that has ended it. -/
def runApart (runner : Runner) (setup : Session → Session) (name : String)
    (arguments : List String) : Shell (Nat × Option String) := do
  Shell.spend Shell.forkTime
  let child ← Shell.fork setup (runner name arguments)
  Shell.awaitProcess child

/-- Lets a program take the place of the one that runs, which tells why it cannot be started. -/
def runInstead (runner : Runner) (program front : String) (command : List String) :
    Shell Unit := do
  match command with
  | [] => pure ()
  | name :: arguments =>
    match startFault? (← get) name with
    | some (cause, status) => quit program status (front ++ inQuotes name ++ ": " ++ cause)
    | none => runner name arguments

/-- A length of time in microseconds. -/
def duration? (text : String) : Option Nat :=
  let characters := text.toList
  let whole := characters.takeWhile Char.isDigit
  let rest := characters.drop whole.length
  let (fraction, rest) := match rest with
    | '.' :: after =>
      let digits := after.takeWhile Char.isDigit
      (digits, after.drop digits.length)
    | _ => ([], rest)
  let unit : Option Nat := match rest with
    | [] | ['s'] => some 1
    | ['m'] => some 60
    | ['h'] => some 3600
    | ['d'] => some 86400
    | _ => none
  if text = "inf" || text = "infinity" then some 1000000000000000
  else if whole.isEmpty && fraction.isEmpty then none
  else
    let parts := ofDigits 10 (whole ++ fraction)
    unit.map fun n =>
      let scale := Nat.pow 10 fraction.length
      (parts * n * 1000000 + scale - 1) / scale

/-! ## Items -/

/-- Where a reader of items is. -/
inductive ItemState where
  /-- Between items. -/
  | between
  /-- In an item. -/
  | inside
  /-- In quotes of some kind. -/
  | quoted (mark : Char)
  /-- After a backslash. -/
  | escaped

/-- An item, and whether its line ends after it. -/
structure ReadItem where
  /-- The text. -/
  text : String
  /-- Whether its line ends after it. -/
  endsLine : Bool

/-- What is wrong with a quote that is not closed. -/
def openQuote (mark : Char) : String :=
  "unmatched " ++ (if mark = '"' then "double" else "single") ++
    " quote; by default quotes are special to xargs unless you use the -0 option"

/-- The items of a text: words, or lines without the blanks before them. An item that has not ended
yet is given backwards. -/
def itemsFrom (takesLines : Bool) : ItemState → List Char → List Char →
    Except String (List ReadItem)
  | .between, _, [] => .ok []
  | .quoted mark, _, [] => .error (openQuote mark)
  | _, item, [] => .ok [⟨String.ofList item.reverse, true⟩]
  | .quoted mark, item, c :: rest =>
    if c = mark then itemsFrom takesLines .inside item rest
    else if c = '\n' then .error (openQuote mark)
    else itemsFrom takesLines (.quoted mark) (c :: item) rest
  | .escaped, item, c :: rest => itemsFrom takesLines .inside (c :: item) rest
  | state, item, c :: rest =>
    let isBlank := c = ' ' || c = '\t'
    let isBetween := state matches .between
    if isBetween && (isBlank || c = '\n') then itemsFrom takesLines .between [] rest
    else if c = '\n' then
      (itemsFrom takesLines .between [] rest).map (⟨String.ofList item.reverse, true⟩ :: ·)
    else if isBlank && !takesLines then
      (itemsFrom takesLines .between [] rest).map (⟨String.ofList item.reverse, false⟩ :: ·)
    else if c = '\\' then itemsFrom takesLines .escaped item rest
    else if c = '\x27' || c = '"' then itemsFrom takesLines (.quoted c) item rest
    else itemsFrom takesLines .inside (c :: item) rest

/-- The items of a text between which a character stands. -/
def separatedItems (separator : Char) (text : String) : List ReadItem :=
  (recordsOf separator text).map fun item => ⟨item, true⟩

/-! ## Batches -/

/-- How many items go into one command. -/
structure Batch where
  /-- The greatest number of items. -/
  items : Option Nat
  /-- The greatest number of lines. -/
  lines : Option Nat
  /-- The greatest number of characters, each item counted with its end. -/
  size : Nat

/-- Puts items into commands, given the items of the command that is not complete, the last one
first, its lines and its characters. -/
def Batch.splitFrom (batch : Batch) (start : Nat) :
    List String → Nat → Nat → List ReadItem → List (List String)
  | [], _, _, [] => []
  | taken, _, _, [] => [taken.reverse]
  | taken, lines, size, item :: rest =>
    let length := item.text.length + 1
    let isFull := !taken.isEmpty && (batch.items.any (· ≤ taken.length) ||
      batch.lines.any (· ≤ lines) || batch.size < size + length)
    let more := if item.endsLine then 1 else 0
    if isFull then
      taken.reverse :: batch.splitFrom start [item.text] more (start + length) rest
    else batch.splitFrom start (item.text :: taken) (lines + more) (size + length) rest

/-- Puts items into commands that begin with so many characters. -/
def Batch.split (batch : Batch) (start : Nat) (items : List ReadItem) : List (List String) :=
  batch.splitFrom start [] 0 start items

/-! ## Commands with arguments that are read -/

/-- The options of the program that runs a command with arguments that are read. -/
def argumentGrammar : Grammar :=
  Grammar.ordered "xargs" "0a:d:E:e::I:i::L:l::n:oP:prs:tx"
    [("null", "0"), ("arg-file:", "a"), ("delimiter:", "d"), ("eof::", "e"), ("replace::", "i"),
      ("max-lines::", "l"), ("max-args:", "n"), ("open-tty", "o"), ("max-procs:", "P"),
      ("interactive", "p"), ("no-run-if-empty", "r"), ("max-chars:", "s"), ("verbose", "t"),
      ("exit", "x"), ("show-limits", "show-limits"), ("process-slot-var:", "slot")]

/-- The value of an option that must be a positive number. -/
def positiveOf (options : Options) (name : String) : Shell (Option Nat) := do
  match options.value? name with
  | none => return none
  | some text =>
    match text.toNat? with
    | none =>
      argumentGrammar.misuse ("invalid number \"" ++ text ++ "\" for -" ++ name ++ " option")
    | some 0 =>
      argumentGrammar.misuse ("value 0 for -" ++ name ++ " option should be >= 1")
    | some n => return some n

/-- The character that a text stands for as a separator. -/
def separatorOf (text : String) : Char :=
  match text.toList with
  | ['\\', 'n'] => '\n'
  | ['\\', 't'] => '\t'
  | ['\\', '0'] => '\x00'
  | ['\\', '\\'] => '\\'
  | c :: _ => c
  | [] => '\x00'

/-- A word as it is shown in a command. -/
def shownWord (word : String) : String :=
  if word.toList.all fun c => c.isAlphanum || ['/', '.', '_', '-', '+', ',', '%', ':', '=',
      '@', '\x7b', '\x7d', '[', ']'].contains c then word
  else inQuotes word

/-- Runs a command, and has the status that remains: that of the last failure. The result tells
whether no more commands are run. -/
def runCommand (runner : Runner) (options : Options) (command : List String) : Shell Bool := do
  let name := command.headD ""
  if options.has "t" then
    Shell.write 2 (" ".intercalate (command.map shownWord) ++ "\n")
  match startFault? (← get) name with
  | some (cause, status) =>
    report "xargs" (name ++ ": " ++ cause)
    Shell.finish status
    return true
  | none =>
    let keepsInput := options.has "a" || options.has "o"
    let setup (session : Session) : Session :=
      if keepsInput then session else session.connectNew 0 .nothing
    let status := (← get).status
    let (ended, signal) ← runApart runner setup name command.tail
    match signal with
    | some signal =>
      report "xargs" (name ++ ": terminated by signal " ++ toString (Signal.status signal - 128))
      Shell.finish 125
      return true
    | none =>
      if ended = 255 then
        report "xargs" (name ++ ": exited with status 255; aborting")
        Shell.finish 124
        return true
      else
        Shell.finish (if ended = 0 then status else 123)
        return false

/-- Runs commands one after another, until one of them ends it all. -/
def runCommands (runner : Runner) (options : Options) : List (List String) → Shell Unit
  | [] => pure ()
  | command :: rest => do
    if ← runCommand runner options command then pure () else runCommands runner options rest

/-- The limit on the characters of a command. -/
def commandLimit : Nat := 131072

/-- Runs a command with arguments that are read. -/
def xargs : Program := fun runner arguments => do
  let options ← argumentGrammar.take arguments
  let command := if options.operands.isEmpty then ["echo"] else options.operands
  let mode := options.last? ["I", "i", "L", "l", "n"]
  let most ← positiveOf options "n"
  let lines ← positiveOf options "L"
  let size ← positiveOf options "s"
  let text ← match options.value? "a" with
    | none => Shell.takeAll
    | some path =>
      match ← contentOf path with
      | .ok text => pure text
      | .error cause => quit "xargs" 1 ("Cannot open input file " ++ inQuotes path ++ ": " ++ cause)
  let pattern : Option String := match mode with
    | some "I" => options.value? "I"
    | some "i" => some (match options.value? "i" with
      | some "" | none => "\x7b\x7d"
      | some text => text)
    | _ => none
  let found : Except String (List ReadItem) := match options.last? ["0", "d"] with
    | some "0" => .ok (separatedItems '\x00' text)
    | some _ => .ok (separatedItems (separatorOf ((options.value? "d").getD "")) text)
    | none => itemsFrom pattern.isSome .between [] text.toList
  Shell.finish 0
  let items ← match found with
    | .ok items => pure items
    | .error message => quit "xargs" 1 message
  let last := (options.value? "E").or (options.value? "e")
  let items := match last with
    | some text => if text = "" then items else items.takeWhile fun item => item.text ≠ text
    | none => items
  match pattern with
  | some pattern =>
    runCommands runner options (items.map fun item =>
      command.take 1 ++ (command.drop 1).map fun word => word.replace pattern item.text)
  | none =>
    let lineLimit := match mode with
      | some "L" => lines
      | some "l" => some (((options.value? "l").bind String.toNat?).getD 1)
      | _ => none
    let batch : Batch := ⟨if mode == some "n" then most else none, lineLimit,
      size.getD commandLimit⟩
    let start := command.foldl (fun n word => n + word.length + 1) 0
    if items.any fun item => batch.size < start + item.text.length + 1 then
      quit "xargs" 1 "argument line too long"
    let batches := batch.split start items
    let batches := if batches.isEmpty && !options.has "r" then [[]] else batches
    runCommands runner options (batches.map (command ++ ·))

/-! ## Variables -/

/-- Runs a program with other variables, or writes them. -/
def env : Program := fun runner arguments => do
  let grammar := { Grammar.ordered "env" "iu:0C:S:v"
    [("ignore-environment", "i"), ("unset:", "u"), ("null", "0"), ("chdir:", "C"),
      ("split-string:", "S"), ("debug", "v"), ("default-signal::", "signal"),
      ("ignore-signal::", "signal"), ("block-signal::", "signal"),
      ("list-signal-handling", "list")] with failure := 125 }
  let options ← grammar.take arguments
  let split := (options.values "S").flatMap fun text =>
    match itemsFrom false .between [] text.toList with
    | .ok items => items.map ReadItem.text
    | .error _ => []
  let operands := split ++ options.operands
  let (isCleared, operands) := match operands with
    | "-" :: rest => (true, rest)
    | operands => (options.has "i", operands)
  let given := operands.takeWhile fun word => word.contains '='
  let command := operands.drop given.length
  modify fun session =>
    let start := if isCleared then { session with assignments := [], shared := [] } else session
    let left := (options.values "u").foldl Session.unset start
    given.foldl
      (fun session word =>
        match Builtins.assignmentOf? word with
        | some (name, value) => session.assign name value
        | none => session)
      left
  if options.has "0" && !command.isEmpty then
    grammar.misuse "cannot specify --null (-0) with command"
  match options.value? "C" with
  | none => pure ()
  | some path =>
    let session ← get
    match session.locate path with
    | .ok place =>
      if session.files.hasDirectory place then
        set { session with here := place, directory := Octets.ofText (Place.path place) }
      else quit "env" 125 ("cannot change directory to " ++ inQuotes path ++ ": Not a directory")
    | .error cause =>
      quit "env" 125 ("cannot change directory to " ++ inQuotes path ++ ": " ++ cause.summary)
  Shell.finish 0
  if command.isEmpty then
    let ending := if options.has "0" then '\x00' else '\n'
    Shell.put (ofRecords ending ((← get).environment.map fun (name, value) =>
      name ++ "=" ++ value))
  else runInstead runner "env" "" command

/-- Writes variables. -/
def printenv : Utility := fun arguments => do
  let grammar := Grammar.ordered "printenv" "0" [("null", "0")] |>.failingWith 2
  let options ← grammar.take arguments
  let ending := if options.has "0" then '\x00' else '\n'
  let seen := (← get).environment
  if options.operands.isEmpty then
    Shell.put (ofRecords ending (seen.map fun (name, value) => name ++ "=" ++ value))
    Shell.finish 0
  else
    let values := options.operands.filterMap fun name => seen.lookup name
    Shell.put (ofRecords ending values)
    Shell.finish (if values.length = options.operands.length then 0 else 1)

/-! ## Time and signals -/

/-- Runs a program, and ends it after some time. -/
def timeout : Program := fun runner arguments => do
  let grammar := Grammar.ordered "timeout" "k:s:v"
    [("kill-after:", "k"), ("signal:", "s"), ("verbose", "v"), ("foreground", "foreground"),
      ("preserve-status", "preserve")] |>.failingWith 125
  let options ← grammar.take arguments
  match options.operands with
  | time :: name :: rest =>
    let limit ← match duration? time with
      | some n => pure n
      | none => grammar.misuse ("invalid time interval " ++ inQuotes time)
    let grace ← match options.value? "k" with
      | none => pure none
      | some text =>
        match duration? text with
        | some n => pure (some n)
        | none => grammar.misuse ("invalid time interval " ++ inQuotes text)
    let signal ← match Signal.ofText? ((options.value? "s").getD "TERM") with
      | some signal => pure signal
      | none => grammar.misuse (inQuotes ((options.value? "s").getD "") ++ ": invalid signal")
    match startFault? (← get) name with
    | some (cause, status) =>
      quit "timeout" status ("failed to run command " ++ inQuotes name ++ ": " ++ cause)
    | none =>
      Shell.spend Shell.forkTime
      let child ← Shell.fork id (runner name rest)
      let awaitFor (duration : Nat) : Shell Bool := do
        let time := (← get).clock + duration
        let isOver (machine : Machine) : Bool := (machine.status? child).isSome
        Shell.await fun machine => some (if isOver machine then machine.clock else time)
        return isOver (← get).toMachine
      let send (signal : String) : Shell Unit := do
        if options.has "v" then
          report "timeout" ("sending signal " ++ signal ++ " to command " ++ inQuotes name)
        modify fun session => { session with toMachine := session.send child signal }
      let isInTime ← if limit = 0 then pure true else awaitFor limit
      if !isInTime then
        send signal
        match grace with
        | some grace => if !(← awaitFor grace) then send "KILL"
        | none => pure ()
      let (status, ending) ← Shell.awaitProcess child
      if isInTime || options.has "preserve" then Shell.finish status
      else if ending == some "KILL" then Shell.finish 137
      else Shell.finish 124
  | _ =>
    Shell.write 2 grammar.hint
    leave 125

/-- Lets time pass. -/
def sleep : Utility := fun arguments => do
  let grammar := Grammar.standard "sleep" "" []
  let options ← grammar.take arguments
  if options.operands.isEmpty then grammar.missingOperand none
  let bad := options.operands.filter fun text => (duration? text).isNone
  for text in bad do
    report "sleep" ("invalid time interval " ++ inQuotes text)
  if !bad.isEmpty then
    Shell.write 2 grammar.hint
    leave 1
  Shell.spend ((options.operands.filterMap duration?).foldl (· + ·) 0)
  Shell.finish 0

/-- Runs a program that goes on when its terminal is gone. -/
def nohup : Program := fun runner arguments => do
  let grammar := Grammar.ordered "nohup" "" [] |>.failingWith 125
  let options ← grammar.take arguments
  if options.operands.isEmpty then grammar.missingOperand none
  modify fun session => { session with traps := ("HUP", "") :: session.traps }
  runInstead runner "nohup" "failed to run command " options.operands

/-- Runs a program that gives way to others. -/
def nice : Program := fun runner arguments => do
  let grammar := Grammar.ordered "nice" "n:0:1:2:3:4:5:6:7:8:9:" [("adjustment:", "n")]
    |>.failingWith 125
  let options ← grammar.take arguments
  if options.operands.isEmpty then
    Shell.put "0\n"
    Shell.finish 0
  else runInstead runner "nice" "" options.operands

/-- Runs a program in some manner that makes no difference here, after options with some letters. -/
def inManner (program letters : String) (names : List (String × String)) : Program :=
  fun runner arguments => do
    let grammar := Grammar.ordered program letters names |>.failingWith 125
    let options ← grammar.take arguments
    if options.operands.isEmpty then grammar.missingOperand none
    runInstead runner program "failed to run command " options.operands

/-- The programs that start other programs, and those that wait. -/
def startTable : List (String × Program) :=
  [("xargs", xargs), ("env", env), ("printenv", alone printenv), ("timeout", timeout),
    ("sleep", alone sleep), ("nohup", nohup), ("nice", nice),
    ("setsid", inManner "setsid" "cfw" [("ctty", "c"), ("fork", "f"), ("wait", "w")]),
    ("stdbuf", inManner "stdbuf" "i:o:e:" [("input:", "i"), ("output:", "o"), ("error:", "e")])]

end Compositor.Script.Programs
