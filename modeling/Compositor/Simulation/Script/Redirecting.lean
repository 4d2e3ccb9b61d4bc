import Compositor.Simulation.Script.Expansion

set_option autoImplicit false

/-!
# Redirections and assignments around a command

A redirection lets a channel lead somewhere else while a command runs. Assignments in front of a
command hold while it runs, and afterwards the variables have the values that they had before.

## Main definitions

* `Script.openStream` — opens what stands at a path.
* `Script.redirect` — carries out redirections.
* `Script.redirecting` — runs something with redirections.
* `Script.assigning` — runs something with variables that are put back afterwards.
-/

namespace Compositor.Script

/-! ## Files -/

/-- How something is opened. -/
structure Opening where
  /-- Whether it is read. -/
  reads : Bool
  /-- Whether it is written, and made if it is missing. -/
  writes : Bool
  /-- Whether a file is emptied. -/
  empties : Bool
  /-- Whether it is written at its end. -/
  atEnd : Bool

/-- How the target of a redirection is opened. -/
def Direction.opening : Direction → Opening
  | input | duplicate | document => ⟨true, false, false, false⟩
  | output | overwrite => ⟨false, true, true, false⟩
  | append => ⟨false, true, false, true⟩
  | both => ⟨true, true, false, false⟩

/-- The channel that a place stands for. -/
def channelOf? (place : Place) : Option Nat :=
  match place with
  | ["dev", "stdin"] => some 0
  | ["dev", "stdout"] => some 1
  | ["dev", "stderr"] => some 2
  | ["dev", "fd", number] | ["proc", "self", "fd", number] => number.toNat?
  | _ => none

/-- The stream to which a device leads. -/
def deviceStream? (clock : Nat) (name : String) : Option Stream :=
  match name with
  | "null" => some .nothing
  | "zero" => some (.zeros false)
  | "full" => some (.zeros true)
  | "random" | "urandom" => some (.noise clock)
  | _ => none

/-- Opens a pipe that has a name, whose number is given, and waits until somebody opens its other
end. -/
def openQueue (number : Nat) (opening : Opening) : Shell Stream := do
  if ((← get).queues.lookup number).isNone then
    modify fun session =>
      let (pipe, machine) := session.addPipe true ByteArray.empty
      { session with
        toMachine := { machine with queues := (number, pipe) :: machine.queues } }
  let session ← get
  let pipe := (session.queues.lookup number).getD 0
  let isRead (machine : Machine) : Bool := machine.isHeld (Stream.reads pipe)
  let isWritten (machine : Machine) : Bool := machine.isHeld (Stream.writes pipe)
  let machine := session.recorded.toMachine
  let idle := !isRead machine && !isWritten machine
  let (readers, writers) :=
    ((session.pipes[pipe]?).map fun found => (found.readers, found.writers)).getD (0, 0)
  let stream : Stream := if opening.reads && opening.writes then .both pipe
    else if opening.reads then .source pipe else .sink pipe
  let (index, machine) := (session.changePipe pipe fun found =>
    { found with
      content := if idle then ByteArray.empty else found.content
      start := if idle then 0 else found.start
      readers := if opening.reads then readers + 1 else readers
      writers := if opening.writes then writers + 1 else writers }).addStream stream
  set { session with toMachine := machine, held := index :: session.held }
  let isMet (machine : Machine) : Bool :=
    (opening.reads && opening.writes) ||
      match machine.pipes[pipe]? with
      | some found =>
        if opening.reads then isWritten machine || writers < found.writers
        else isRead machine || readers < found.readers
      | none => true
  if !isMet machine then
    Shell.await fun machine => if isMet machine then some machine.clock else none
  modify fun session => { session with held := session.held.erase index }
  return stream

/-- Opens what stands at a path, or a new file there. -/
def openStream (path : String) (opening : Opening) : Shell (Except String Stream) := do
  let session ← get
  let fileStream (number : Nat) : Shell (Except String Stream) := do
    if opening.empties then modify fun session => session.write number ByteArray.empty
    return .ok (.file number 0 opening.atEnd)
  let refused (cause : FileError) : Shell (Except String Stream) :=
    return .error (match cause with
      | .notFound | .notADirectory =>
        if opening.writes then "Directory nonexistent" else "No such file"
      | cause => cause.summary)
  match session.locate path with
  | .error cause => refused cause
  | .ok place =>
    match channelOf? place with
    | some other =>
      match session.stream? other with
      | some (.file number _ _) => fileStream number
      | some stream => return .ok stream
      | none => return .error "No such file"
    | none =>
      match session.files.node? place, session.files.number? place with
      | some .directory, _ =>
        if opening.writes then refused .isADirectory else return .ok .directory
      | some (.file _), some number => fileStream number
      | some (.device name), _ =>
        match deviceStream? session.clock name with
        | some stream => return .ok stream
        | none => return .error "No such device or address"
      | some .pipe, some number => return .ok (← openQueue number opening)
      | _, _ =>
        if !opening.writes then refused .notFound
        else
          match session.placeFor path with
          | .error cause => refused cause
          | .ok place =>
            let created := session.create place (.file ByteArray.empty)
            set created
            return .ok (.file ((created.files.number? place).getD 0) 0 opening.atEnd)

/-- Lets a channel lead to a file. -/
def openFile (channel : Nat) (direction : Direction) (path : String) : Shell (Option String) := do
  let opening := direction.opening
  let verb := if opening.writes then "cannot create " else "cannot open "
  let isProtected := direction = .output && (← get).options.contains 'C' &&
    match (← get).node? path with
    | some (.file _) => true
    | _ => false
  if isProtected then return some (verb ++ path ++ ": " ++ FileError.alreadyExists.summary)
  else
    match ← openStream path opening with
    | .error cause => return some (verb ++ path ++ ": " ++ cause)
    | .ok stream =>
      modify fun session => session.connectNew channel stream
      return none

/-- Lets a channel lead where another one does, or nowhere. -/
def duplicate (channel : Nat) (target : String) : Shell (Option String) := do
  let session ← get
  match target.toList with
  | ['-'] =>
    set (session.connect channel none)
    return none
  | [digit] =>
    if !digit.isDigit then Shell.fail "Syntax error: Bad fd number"
    match session.channels.lookup (digit.toNat - '0'.toNat) with
    | some stream =>
      set (session.connect channel (some stream))
      return none
    | none => return some (target ++ ": Bad file descriptor")
  | _ => Shell.fail "Syntax error: Bad fd number"

/-- Lets a channel lead to a text that is read. -/
def offer (channel : Nat) (text : String) : Shell Unit :=
  modify fun session =>
    let (pipe, machine) := session.addPipe false (Octets.toBytes text)
    { session with toMachine := machine }.connectNew channel (.source pipe)

/-- Carries out redirections up to the first that fails. -/
def redirect (substitute : List Command → Shell String) :
    List (Redirection Command) → Shell (Option String)
  | [] => return none
  | redirection :: rest => do
    let target ← textOf substitute redirection.target
    let problem ← match redirection.direction with
      | .document => do
        offer redirection.channel target
        pure none
      | .duplicate => duplicate redirection.channel target
      | direction => openFile redirection.channel direction target
    match problem with
    | some message => return some message
    | none => redirect substitute rest

/-- Runs something with redirections, and lets the channels lead where they did before. If one of
them fails it does not run. -/
def redirecting (substitute : List Command → Shell String)
    (redirections : List (Redirection Command)) (strict : Bool) (action : Shell Unit) :
    Shell Unit := do
  if redirections.isEmpty then action
  else
    let before ← get
    let changed := (redirections.map Redirection.channel).eraseDups
    let saved := changed.map fun channel => (channel, before.channels.lookup channel)
    set { before with held := (saved.filterMap Prod.snd) ++ before.held }
    let escape ← Shell.attempt do
      match ← redirect substitute redirections with
      | none => action
      | some message =>
        if strict then Shell.fail message
        else
          Shell.complain message
          Shell.finish 2
    modify fun session =>
      let restored := saved.foldl
        (fun session (channel, stream) => session.connect channel stream) session
      { restored with held := before.held }.reclaim before.streams.size before.pipes.size
    Shell.resume escape

/-! ## Variables -/

/-- Sets variables one after another. -/
def assignAll (substitute : List Command → Shell String) (shared : Bool)
    (assignments : List (String × Word Command)) : Shell Unit := do
  for (name, word) in assignments do
    Shell.assign name (← textOf substitute word)
    if shared then modify fun session => session.share name

/-- Runs something with variables that are put back afterwards. -/
def assigning (substitute : List Command → Shell String)
    (assignments : List (String × Word Command)) (action : Shell Unit) : Shell Unit := do
  if assignments.isEmpty then action
  else
    let before ← get
    let escape ← Shell.attempt do
      assignAll substitute true assignments
      action
    modify fun session => assignments.foldl
      (fun session (name, _) =>
        let restored := session.restore name (before.assignments.lookup name)
        if before.shared.contains name then restored.share name
        else { restored with shared := restored.shared.filter (· ≠ name) })
      session
    Shell.resume escape

end Compositor.Script
