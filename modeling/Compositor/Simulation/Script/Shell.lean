import Compositor.Simulation.Script.Session
import Compositor.Simulation.Script.Signal

set_option autoImplicit false

/-!
# What a shell does

A shell changes its session and may leave what it is doing. Now and then it pauses until some time,
or until something has happened on the machine; other processes run meanwhile. What a shell does is
therefore written with what comes after it, and a whole run is a process: it ends, pauses or splits
into two.

## Main definitions

* `Script.Escape` — why a shell leaves what it is doing.
* `Script.Process` — the run of a shell.
* `Script.Process.run` — runs processes side by side.
* `Script.Shell` — what a shell does.
* `Script.Shell.await`, `Script.Shell.spend`, `Script.Shell.fork` — pauses and new processes.
* `Script.Shell.write`, `Script.Shell.takeAll`, `Script.Shell.takeLine` — output and input.
* `Script.Shell.fail` — fails with a diagnostic.
-/

namespace Compositor.Script

/-- Why the shell leaves what it is doing. -/
inductive Escape where
  /-- The shell ends. -/
  | leave
  /-- A command of the shell fails, or the shell itself. -/
  | failed
  /-- A function ends. -/
  | returned
  /-- So many loops end. -/
  | brokenOut (levels : Nat)
  /-- All but one of so many loops end, and that one goes on. -/
  | continued (levels : Nat)
  /-- The shell is ended by a signal. -/
  | killed (signal : String)
  /-- The bound on the depth of a run is reached. -/
  | exhausted
deriving DecidableEq

/-! ## Processes -/

/-- The run of a shell. -/
inductive Process where
  /-- It has ended. -/
  | ended (machine : Machine)
  /-- It pauses. The time at which it can go on depends on the machine. -/
  | paused (machine : Machine) (wake : Machine → Option Nat) (resume : Machine → Process)
  /-- It goes on, and another process has begun. -/
  | forked (machine : Machine) (child resume : Machine → Process)

/-- A process that pauses. -/
structure Task where
  /-- The time at which it can go on. -/
  wake : Machine → Option Nat
  /-- How it goes on. -/
  resume : Machine → Process

/-- The microseconds after which a new process begins to run. -/
def childDelay : Nat := 120

/-- The microseconds after which everything stops. -/
def timeLimit : Nat := 60000000

/-- The microseconds for which everything goes on once enough has happened. -/
def graceTime : Nat := 5000

/-- The task that can go on first, with the time, and the others. -/
def earliest (machine : Machine) : List Task → Option (Nat × Task × List Task)
  | [] => none
  | task :: rest =>
    match task.wake machine, earliest machine rest with
    | none, none => none
    | none, some (time, first, others) => some (time, first, task :: others)
    | some time, none => some (time, task, rest)
    | some time, some (other, first, others) =>
      if time ≤ other then some (time, task, rest) else some (other, first, task :: others)

/-- Runs processes side by side, as far as the fuel goes: always the one that can go on first. Soon
after enough has happened everything stops. -/
def Process.run (isEnough : Machine → Bool) :
    Nat → Option Nat → Process → List Task → Machine
  | 0, _, .ended machine, _ => machine
  | 0, _, .paused machine _ _, _ => machine
  | 0, _, .forked machine _ _, _ => machine
  | fuel + 1, stop, .forked machine child resume, tasks =>
    let time := machine.clock + childDelay
    run isEnough fuel stop (resume machine) (tasks ++ [⟨fun _ => some time, child⟩])
  | fuel + 1, stop, .paused machine wake resume, tasks =>
    proceed fuel stop machine (tasks ++ [⟨wake, resume⟩])
  | fuel + 1, stop, .ended machine, tasks => proceed fuel stop machine tasks
where
  /-- Goes on with the task that can go on first. -/
  proceed (fuel : Nat) (stop : Option Nat) (machine : Machine) (tasks : List Task) : Machine :=
    match earliest machine tasks with
    | none => machine
    | some (time, task, others) =>
      let clock := max machine.clock time
      let stop := stop.or (if isEnough machine then some (machine.clock + graceTime) else none)
      if timeLimit < clock || stop.any (· < clock) then machine
      else run isEnough fuel stop (task.resume { machine with clock := clock }) others

/-- What a shell does, given what comes after it. -/
def Shell (α : Type) : Type :=
  Session → (Except Escape α → Session → Process) → Process

namespace Shell

/-- Does nothing and has a value. -/
@[always_inline, inline]
def value {α : Type} (a : α) : Shell α := fun session next =>
  next (.ok a) session

/-- Does something and then what depends on its value. -/
@[always_inline, inline]
def andThen {α β : Type} (first : Shell α) (second : α → Shell β) : Shell β := fun session next =>
  first session fun result after =>
    match result with
    | .ok a => second a after next
    | .error escape => next (.error escape) after

/-- The session. -/
@[always_inline, inline]
def current : Shell Session := fun session next =>
  next (.ok session) session

/-- Takes another session. -/
@[always_inline, inline]
def exchange (session : Session) : Shell Unit := fun _ next =>
  next (.ok ()) session

/-- Changes the session and has a value. -/
@[always_inline, inline]
def update {α : Type} (f : Session → α × Session) : Shell α := fun session next =>
  let (a, after) := f session
  next (.ok a) after

/-- Leaves what the shell is doing. -/
@[always_inline, inline]
def escape {α : Type} (reason : Escape) : Shell α := fun session next =>
  next (.error reason) session

/-- Does something, and something else if the shell leaves it. -/
@[always_inline, inline]
def rescue {α : Type} (action : Shell α) (handler : Escape → Shell α) : Shell α :=
  fun session next =>
    action session fun result after =>
      match result with
      | .ok a => next (.ok a) after
      | .error reason => handler reason after next

end Shell

instance : Monad Shell where
  pure := Shell.value
  bind := Shell.andThen

instance : MonadStateOf Session Shell where
  get := Shell.current
  set := Shell.exchange
  modifyGet := Shell.update

instance : MonadExceptOf Escape Shell where
  throw := Shell.escape
  tryCatch := Shell.rescue

namespace Shell

/-- Does something and finds out whether the shell leaves it. -/
def attempt (action : Shell Unit) : Shell (Option Escape) := fun session next =>
  action session fun result after =>
    match result with
    | .ok () => next (.ok none) after
    | .error reason => next (.ok (some reason)) after

/-- Goes on leaving. -/
def resume : Option Escape → Shell Unit
  | some escape => throw escape
  | none => pure ()

/-- Does something and then something else, whether or not the shell leaves it. -/
def followedBy (action after : Shell Unit) : Shell Unit := do
  let escape ← attempt action
  after
  resume escape

/-! ## Status and diagnostics -/

/-- Sets the status. -/
def finish (status : Nat) : Shell Unit :=
  modify fun session => { session with status := status }

/-! ## Pauses -/

/-- Pauses until a time that depends on the machine, or until a signal comes. -/
def pause (wake : Machine → Option Nat) : Shell Unit := fun session next =>
  let recorded := session.recorded
  let number := session.self
  .paused recorded.toMachine
    (fun machine => if machine.isCalled number then some machine.clock else wake machine)
    fun machine => next (.ok ()) { session with toMachine := machine }

/-- Notices the signals that have come: does nothing about some, remembers some, and ends the shell
for the others. -/
def notice : Shell Unit := do
  let session ← get
  match session.record? session.self with
  | none => pure ()
  | some entry =>
    set { session with
      toMachine := session.changeEntry session.self fun entry => { entry with signals := [] } }
    for signal in entry.signals do
      if signal = "KILL" then throw (.killed signal)
      match session.traps.lookup signal with
      | some "" => pure ()
      | some _ => modify fun session => { session with caught := session.caught ++ [signal] }
      | none => if !Signal.harmless.contains signal then throw (.killed signal)

/-- Waits until a time that depends on the machine, as far as the fuel goes. The wait may end at a
signal for which something is to be done. -/
def awaitUpTo (endsAtSignal : Bool) (wake : Machine → Option Nat) : Nat → Shell Unit
  | 0 => pure ()
  | fuel + 1 => do
    pause wake
    if (← get).toMachine.isCalled (← get).self then notice
    let session ← get
    if (wake session.toMachine).any (· ≤ session.clock) then pure ()
    else if endsAtSignal && !session.caught.isEmpty then pure ()
    else awaitUpTo endsAtSignal wake fuel

/-- Waits until a time that depends on the machine. -/
def await (wake : Machine → Option Nat) : Shell Unit :=
  awaitUpTo false wake 1000000

/-- Lets microseconds pass. -/
def spend (duration : Nat) : Shell Unit := do
  let time := (← get).clock + duration
  await fun _ => some time

/-- The microseconds that a command of the shell itself takes. -/
def commandTime : Nat := 5

/-- The microseconds that it takes to start a program. -/
def programTime : Nat := 1000

/-- The microseconds that it takes to make a process. -/
def forkTime : Nat := 80

/-- Begins another process, which starts with a changed session, and returns its number. The process
keeps from the traps only those that ignore signals. -/
def fork (setup : Session → Session) (child : Shell Unit) : Shell Nat := fun session next =>
  let begun := setup { session with
    self := session.nextProcess
    parent := session.self
    held := []
    traps := session.traps.filter fun entry => entry.2 == ""
    caught := []
    jobs := [] }
  let (number, machine) := session.recorded.addProcess (begun.channels.map Prod.snd)
  .forked machine
    (fun machine => child { begun with toMachine := machine } fun result after =>
      let (status, signal) := match result with
        | .error (.killed signal) => (Signal.status signal, some signal)
        | _ => (after.status % 256, none)
      .ended (after.finish number status signal))
    fun machine => next (.ok number) { session with toMachine := machine }

/-- Waits until a process has ended, and returns its status and the signal that has ended it, if one
has. -/
def awaitProcess (number : Nat) : Shell (Nat × Option String) := do
  await fun machine => if (machine.status? number).isSome then some machine.clock else none
  let session ← get
  let entry := session.record? number
  set (Session.reaped { session with toMachine := session.forget number })
  return ((entry.bind Entry.status).getD 0, entry.bind Entry.ending)

/-! ## Output -/

/-- Writes to a channel. A writer waits as long as there is much to read, and a signal ends it when
nobody reads any more. -/
def write (channel : Nat) (text : String) : Shell Unit := do
  let session ← get
  let refuse (cause : String) : Shell Unit :=
    if channel = 1 then modify fun session => { session with obstacle := some cause }
    else pure ()
  if text = "" then pure ()
  else
    match (session.channels.lookup channel).bind fun index =>
        (session.streams[index]?).map (index, ·) with
    | none => refuse "Bad file descriptor"
    | some (_, .nothing) | some (_, .zeros false) | some (_, .noise _) => pure ()
    | some (_, .zeros true) => refuse "No space left on device"
    | some (_, .directory) | some (_, .source _) => refuse "Bad file descriptor"
    | some (index, .file number offset atEnd) =>
      match (session.files.inode? number).map Inode.node with
      | some (.file content) =>
        let new := Octets.toBytes text
        let start := if atEnd then content.size else offset
        let gap : ByteArray := ⟨Array.replicate (start - content.size) 0⟩
        let all := content.extract 0 start ++ gap ++ new ++
          content.extract (start + new.size) content.size
        let machine := session.setStream index (.file number (start + new.size) atEnd)
        set ({ session with toMachine := machine }.write number all)
      | _ => refuse "Bad file descriptor"
    | some (_, .sink pipe) | some (_, .both pipe) =>
      let isRead (machine : Machine) : Bool := machine.isHeld (Stream.reads pipe)
      let isBounded := (session.pipes[pipe]?).any Pipe.bounded
      if isBounded && !isRead session.recorded.toMachine then
        if session.traps.lookup "PIPE" == some "" then refuse "Broken pipe"
        else throw (.killed "PIPE")
      else
        let machine := session.changePipe pipe fun found => found.push (Octets.toBytes text)
        set { session with toMachine := machine }
        if isBounded && Pipe.limit < machine.pipeSize pipe then
          await fun machine =>
            if machine.pipeSize pipe ≤ Pipe.limit || !isRead machine then some machine.clock
            else none

/-- Writes to the output. -/
def put (text : String) : Shell Unit :=
  write 1 text

/-- Writes a diagnostic of the shell. -/
def complain (message : String) : Shell Unit := do
  let session ← get
  let activity := match session.activity with
    | some name => name ++ ": "
    | none => ""
  write 2 (session.name ++ ": " ++ toString session.line ++ ": " ++ activity ++ message ++ "\n")

/-- Fails with a diagnostic. -/
def fail {α : Type} (message : String) : Shell α := do
  complain message
  finish 2
  throw .failed

/-- Gives a variable a value unless it is fixed. -/
def assign (name value : String) : Shell Unit := do
  if (← get).fixed.contains name then fail (name ++ ": is read only")
  else modify fun session =>
    let assigned := session.assign name value
    if session.options.contains 'a' then assigned.share name else assigned

/-! ## Input -/

/-- Waits until more than so many bytes can be read from a channel, or no more will come. -/
def awaitInput (channel known : Nat) : Shell Unit := do
  let found := (← get).available channel
  match found.pipe with
  | none => pure ()
  | some pipe =>
    if found.size ≤ known then
      await fun machine =>
        if known < machine.pipeSize pipe || !machine.isHeld (Stream.writes pipe) then
          some machine.clock
        else none

/-- Takes what can be read from a channel now, after waiting for something. Nothing is taken only at
the end. -/
def takeSome (channel : Nat) : Shell String := do
  awaitInput channel 0
  let session ← get
  let found := session.available channel
  set (session.advance channel found.size)
  return Octets.ofBytes (found.content.extract found.start found.content.size)

/-- Takes no more than so many bytes of what can be read from a channel now, after waiting for
something. -/
def takeChunk (channel most : Nat) : Shell String := do
  awaitInput channel 0
  let session ← get
  let found := session.available channel
  let count := min most found.size
  set (session.advance channel count)
  return Octets.ofBytes (found.content.extract found.start (found.start + count))

/-- Gives back the last bytes that have been taken, if the channel leads to a file. -/
def giveBack (channel count : Nat) : Shell Unit :=
  modify fun session =>
    match session.channels.lookup channel, session.stream? channel with
    | some index, some (.file number offset atEnd) =>
      { session with toMachine := session.setStream index (.file number (offset - count) atEnd) }
    | _, _ => session

/-- Takes what can be read from a channel until the end comes or enough has been taken, as far as
the fuel goes. -/
def takeUpTo (channel enough : Nat) : Nat → String → Shell String
  | 0, taken => pure taken
  | fuel + 1, taken => do
    let more ← takeSome channel
    if more = "" then return taken
    else
      let all := taken ++ more
      if enough ≤ all.length then return all else takeUpTo channel enough fuel all

/-- The number of bytes that are taken from an input without an end. -/
def plenty : Nat := 4194304

/-- Takes all that can be read. -/
def takeAll : Shell String :=
  takeUpTo 0 plenty 1000000 ""

/-- The place after the first end of a line in bytes. -/
def lineEnd? (content : ByteArray) (start : Nat) : Option Nat :=
  (content.findIdx? (· == 10) start).map (· + 1)

/-- Waits until a whole line can be read from a channel, or no more will come, as far as the fuel
goes. -/
def awaitLine (channel : Nat) : Nat → Shell Unit
  | 0 => pure ()
  | fuel + 1 => do
    let found := (← get).available channel
    if found.pipe.isNone || (lineEnd? found.content found.start).isSome then pure ()
    else
      awaitInput channel found.size
      awaitLine channel fuel

/-- The line that comes next on a channel, which is not taken yet. -/
def nextLine (channel : Nat) : Shell String := do
  awaitLine channel 1000000
  let found := (← get).available channel
  let last := (lineEnd? found.content found.start).getD found.content.size
  return Octets.ofBytes (found.content.extract found.start last)

/-- Takes a line from a channel. At the end there is nothing to take. -/
def takeLine (channel : Nat) : Shell String := do
  let line ← nextLine channel
  modify fun session => session.advance channel line.length
  return line

end Shell

end Compositor.Script
