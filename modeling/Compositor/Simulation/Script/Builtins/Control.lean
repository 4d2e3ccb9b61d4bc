import Compositor.Simulation.Script.Builtins.Basic

set_option autoImplicit false

/-!
# Commands that control the shell

They end the shell, its functions and its loops, send and await signals, and wait for processes.

## Main definitions

* `Script.Builtins.exit`, `Script.Builtins.leaveFunction`, `Script.Builtins.leaveLoops` — ends.
* `Script.Builtins.trap`, `Script.Builtins.kill` — signals.
* `Script.Builtins.wait`, `Script.Builtins.jobs` — processes in the background.
-/

namespace Compositor.Script.Builtins

/-! ## Ends and loops -/

/-- Sets the status that an argument asks for. -/
def finishWith (arguments : List String) : Shell Unit := do
  match arguments with
  | [] => pure ()
  | argument :: _ => Shell.finish (← numberOf argument)

/-- Ends the shell. -/
def exit : Utility := fun arguments => do
  finishWith arguments
  modify fun session => { session with status := session.status % 256 }
  throw .leave

/-- Ends a function. -/
def leaveFunction : Utility := fun arguments => do
  finishWith arguments
  throw .returned

/-- Leaves loops in some way. -/
def leaveLoops (escape : Nat → Escape) : Utility := fun arguments => do
  let wanted ← match arguments with
    | [] => pure 1
    | argument :: _ => do
      let n ← numberOf argument
      if n = 0 then Shell.fail ("Illegal number: " ++ argument)
      pure n
  let loops := (← get).loops
  Shell.finish 0
  if 0 < loops then throw (escape (min wanted loops))

/-! ## Signals -/

/-- Writes what is set for signals. -/
def listTraps : Shell Unit := do
  let traps := (← get).traps
  let known := Signal.table.filterMap fun (signal, _) =>
    (traps.lookup signal).map fun action =>
      "trap -- " ++ inSingleQuotes action ++ " " ++ signal ++ "\n"
  Shell.put (String.join known)
  Shell.finish 0

/-- Sets what is done at the end and on signals. -/
def trap : Utility := fun arguments => do
  match (← optionsOf [] arguments).2 with
  | [] => listTraps
  | first :: rest =>
    let (action, names) :=
      if rest.isEmpty || first.toNat?.isSome then (none, first :: rest)
      else (if first = "-" then none else some first, rest)
    Shell.finish 0
    let bad := names.find? fun name => (Signal.ofText? name).isNone
    for name in names.takeWhile fun name => (Signal.ofText? name).isSome do
      let signal := (Signal.ofText? name).getD ""
      modify fun session =>
        let others := session.traps.filter fun entry => entry.1 ≠ signal
        { session with
          traps := match action with
            | some action => (signal, action) :: others
            | none => others }
    match bad with
    | some name =>
      Shell.write 2 ("trap: " ++ name ++ ": bad trap\n")
      Shell.finish 1
    | none => pure ()

/-- How `kill` is used. -/
def killUsage : String :=
  "Usage: kill [-s sigspec | -signum | -sigspec] [pid | job]... or\nkill -l [exitstatus]"

/-- Writes the names of signals, or of the one that a status stands for. -/
def listSignals (arguments : List String) : Shell Unit := do
  match arguments with
  | [] =>
    let names := (List.range 31).map fun n => (Signal.named? (n + 1)).getD (toString (n + 1))
    Shell.put ("0\n" ++ String.join (names.map (· ++ "\n")))
    Shell.finish 0
  | argument :: _ =>
    let n ← numberOf argument
    let signal := if 128 < n then n - 128 else n
    match if signal = 0 then none else Signal.named? signal with
    | some name =>
      Shell.put (name ++ "\n")
      Shell.finish 0
    | none => Shell.fail ("invalid signal number or exit status: " ++ argument)

/-- The process that an argument of `kill` names, if it exists. -/
def processOf (argument : String) : Shell (Option Nat) := do
  let session ← get
  match argument.toList with
  | '%' :: digits =>
    match session.jobs.find? fun job => toString job.index == String.ofList digits with
    | some _ => return none
    | none => Shell.fail ("No such job: " ++ argument)
  | '-' :: digits =>
    let _ ← numberOf (String.ofList digits)
    return none
  | _ =>
    let n ← numberOf argument
    return if n = 0 then some session.process
      else (session.record? n).map Entry.number

/-- Sends a signal to processes. -/
def sendTo (signal : String) (arguments : List String) : Shell Unit := do
  Shell.finish 0
  for argument in arguments do
    match ← processOf argument with
    | none =>
      Shell.complain "No such process"
      Shell.finish 1
    | some number =>
      if signal ≠ "EXIT" then
        modify fun session => { session with toMachine := session.send number signal }
  Shell.notice

/-- Sends signals. -/
def kill : Utility := fun arguments => do
  match arguments with
  | [] => Shell.fail killUsage
  | first :: rest =>
    let direct := match first.toList with
      | '-' :: name => Signal.ofText? (String.ofList name)
      | _ => none
    match direct, rest with
    | some signal, _ :: _ => sendTo signal rest
    | some _, [] => Shell.fail killUsage
    | none, _ =>
      match first.toList with
      | '-' :: 's' :: name =>
        let (name, others) := match name with
          | [] => (rest.headD "", rest.tail)
          | name => (String.ofList name, rest)
        match Signal.ofText? name with
        | some signal =>
          if others.isEmpty then Shell.fail killUsage else sendTo signal others
        | none => Shell.fail ("invalid signal number or name: " ++ name)
      | ['-', 'l'] => listSignals rest
      | ['-', '-'] => if rest.isEmpty then Shell.fail killUsage else sendTo "TERM" rest
      | '-' :: c :: _ => Shell.fail ("Illegal option -" ++ String.singleton c)
      | _ => sendTo "TERM" arguments

/-! ## Processes in the background -/

/-- Waits until processes have ended. The result tells whether a signal ended the wait. -/
def awaitChildren (numbers : List Nat) : Shell Bool := do
  let ended (machine : Machine) : Bool :=
    numbers.all fun number => (machine.status? number).isSome
  Shell.awaitUpTo true
    (fun machine => if ended machine then some machine.clock else none) 1000000
  let isEnded := ended (← get).toMachine
  modify Session.reaped
  return !isEnded

/-- The processes of jobs that run, as far as the shell knows. -/
def runningChildren (jobs : List Job) : List Nat :=
  (jobs.flatMap Job.children).filterMap fun child =>
    if child.status.isNone then some child.number else none

/-- Finishes with the signal that has ended a wait. -/
def finishInterrupted : Shell Unit := do
  let signal := (← get).caught.headD "TERM"
  Shell.finish (Signal.status signal)

/-- Waits for one job. -/
def waitFor (job : Job) : Shell Unit := do
  if ← awaitChildren (runningChildren [job]) then finishInterrupted
  else
    let session ← get
    let ended := (session.jobs.find? fun other => other.index = job.index).getD job
    let waited (other : Job) : Job :=
      if other.index = job.index then { other with isWaited := true } else other
    set { session with jobs := session.jobs.map waited }
    Shell.finish ended.status

/-- Waits for jobs. -/
def wait : Utility := fun arguments => do
  Shell.finish 0
  if arguments.isEmpty then
    if ← awaitChildren (runningChildren (← get).jobs) then finishInterrupted
    else
      modify fun session =>
        { session with jobs := session.jobs.map fun job => { job with isWaited := true } }
      Shell.finish 0
  else
    for argument in arguments do
      let jobs := (← get).jobs
      match argument.toList with
      | '%' :: digits =>
        match jobs.find? fun job => toString job.index == String.ofList digits with
        | some job => waitFor job
        | none => Shell.fail ("No such job: " ++ argument)
      | _ =>
        let n ← numberOf argument
        match jobs.find? fun job => job.children.getLast?.any fun child => child.number = n with
        | some job => waitFor job
        | none => Shell.finish 127

/-- What is shown of a job. -/
def jobText (jobs : List Job) (job : Job) (withNumbers : Bool) : String :=
  let mark := if (jobs.head?.map Job.index) == some job.index then '+'
    else if ((jobs[1]?).map Job.index) == some job.index then '-' else ' '
  let front := "[" ++ toString job.index ++ "] " ++ String.singleton mark ++ " " ++
    (if withNumbers then toString ((job.children.head?.map Child.number).getD 0) ++ " " else "")
  let state := if !job.isDone then "Running"
    else if 128 < job.status then Signal.obituary ((Signal.named? (job.status - 128)).getD "")
    else if job.status = 0 then "Done"
    else "Done(" ++ toString job.status ++ ")"
  let filled := front ++ state
  filled ++ String.ofList (List.replicate (33 - filled.length) ' ') ++
    String.join (job.children.tail.map fun _ => " | ") ++ "\n"

/-- Tells which jobs there are. Those that have ended are forgotten. -/
def jobs : Utility := fun arguments => do
  let (options, _) ← optionsOf ['l', 'p'] arguments
  modify Session.reaped
  let session ← get
  let shown := session.jobs.reverse.map fun job =>
    if options.contains 'p' then
      toString ((job.children.head?.map Child.number).getD 0) ++ "\n"
    else jobText session.jobs job (options.contains 'l')
  Shell.put (String.join shown)
  modify fun session =>
    { session with jobs := session.jobs.filter fun job => !job.isDone }
  Shell.finish 0

/-- Refuses to change where a job runs. -/
def moveJob : Utility := fun arguments => do
  match arguments with
  | [] => Shell.fail "No current job"
  | argument :: _ => Shell.fail ("No such job: " ++ argument)

/-- Writes how long the shell has worked. -/
def times : Utility := fun _ => do
  Shell.put "0m0.000000s 0m0.000000s\n0m0.000000s 0m0.000000s\n"
  Shell.finish 0

end Compositor.Script.Builtins
