import Compositor.Simulation.Script.Command
import Compositor.Simulation.Script.Machine

set_option autoImplicit false

/-!
# Sessions of the shell

A session is the state of a running shell on a machine: variables, functions, options, and channels
that lead to streams. All texts are texts of octets.

## Main definitions

* `Script.Session` — the state of a shell.
* `Script.Session.value?`, `Script.Session.assign` — variables.
* `Script.Session.connect`, `Script.Session.available` — channels and what can be read from them.
* `Script.Session.locate`, `Script.Session.contents`, `Script.Session.store` — files.
* `Script.Session.withEnvironment`, `Script.Session.environment` — what programs see.
-/

namespace Compositor.Script

/-- A process that a shell started, with the status with which it has ended as far as the shell
knows. -/
structure Child where
  /-- The number of the process. -/
  number : Nat
  /-- The status. -/
  status : Option Nat

/-- Processes for which a shell does not wait when it starts them. -/
structure Job where
  /-- The number of the job. -/
  index : Nat
  /-- The processes. The last one counts. -/
  children : List Child
  /-- Whether the shell has waited for the job. -/
  isWaited : Bool

/-- Whether all processes of a job have ended. -/
def Job.isDone (job : Job) : Bool :=
  job.children.all fun child => child.status.isSome

/-- The status with which a job has ended. -/
def Job.status (job : Job) : Nat :=
  (job.children.getLast?.bind Child.status).getD 0

/-- The state of a shell. -/
structure Session extends Machine where
  /-- The number of the process in which the shell runs. -/
  self : Nat
  /-- Whether it is a shell that runs, and not a program in its place. -/
  isShell : Bool
  /-- The number by which the shell names itself. -/
  process : Nat
  /-- The number of the process that started this one. -/
  parent : Nat
  /-- The working directory. -/
  here : Place
  /-- The path by which the working directory was reached. -/
  directory : String
  /-- The permissions that new files do not get. -/
  mask : Nat
  /-- The name by which the shell was called. -/
  name : String
  /-- The arguments of the script. -/
  arguments : List String
  /-- The variables. -/
  assignments : List (String × String)
  /-- The variables that programs see. -/
  shared : List String
  /-- The variables that cannot be changed. -/
  fixed : List String
  /-- The functions. -/
  functions : List (String × Command)
  /-- The words that stand for other texts at the beginning of a command. -/
  aliases : List (String × String)
  /-- The status of the last command; zero means success. -/
  status : Nat
  /-- The status of the last commands whose output became part of a word. -/
  substituted : Nat
  /-- The line of the command that runs. -/
  line : Nat
  /-- The command of the shell itself that runs. -/
  activity : Option String
  /-- Why something could not be written. -/
  obstacle : Option String
  /-- The options that are on. -/
  options : List Char
  /-- The streams to which the channels lead. -/
  channels : List (Nat × Nat)
  /-- The other streams that the process keeps. -/
  held : List Nat
  /-- What is done at the end and on signals. -/
  traps : List (String × String)
  /-- The signals for which something is to be done. -/
  caught : List String
  /-- How many loops there are around the command that runs. -/
  loops : Nat
  /-- How many functions and other texts there are around the command that runs. -/
  depth : Nat
  /-- The variables of the functions that run, with the values that they had before. -/
  frames : List (List (String × Option String))
  /-- The jobs, the last one first. -/
  jobs : List Job
  /-- The last process for which nobody waited when it was started. -/
  lastJob : Option Nat
  /-- The number of the argument from which the next option is taken. -/
  optionIndex : Nat
  /-- How many characters of the argument before that one have been taken, if it has more. -/
  optionOffset : Option Nat
  /-- The paths of the programs that have been looked for. -/
  remembered : List (String × String)

namespace Session

/-! ## Variables -/

/-- The value of a variable or parameter, if it has one. -/
def value? (session : Session) (name : String) : Option String :=
  match name with
  | "?" => some (toString session.status)
  | "#" => some (toString session.arguments.length)
  | "-" => some (String.ofList session.options)
  | "$" => some (toString session.process)
  | "!" => session.lastJob.map toString
  | "0" => some session.name
  | _ =>
    match name.toNat? with
    | some n => session.arguments[n - 1]?
    | none => session.assignments.lookup name

/-- The value of a variable, or nothing. -/
def value (session : Session) (name : String) : String :=
  (session.value? name).getD ""

/-- Whether a text can be the name of a variable. -/
def isVariable (name : String) : Bool :=
  let characters := name.toList
  characters.all (fun c => c.isAlphanum || c == '_') && !(characters.head?.all Char.isDigit)

/-- Gives a variable a value. A new variable comes after the others. -/
def assign (session : Session) (name value : String) : Session :=
  { session with
    assignments := put session.assignments
    optionIndex := if name = "OPTIND" then max 1 ((value.toNat?).getD 1) else session.optionIndex
    optionOffset := if name = "OPTIND" then none else session.optionOffset
    remembered := if name = "PATH" then [] else session.remembered }
where
  /-- Changes the value of the variable in a list, or adds it. -/
  put : List (String × String) → List (String × String)
    | [] => [(name, value)]
    | entry :: rest => if entry.1 = name then (name, value) :: rest else entry :: put rest

/-- Takes a variable away. -/
def unset (session : Session) (name : String) : Session :=
  { session with
    assignments := session.assignments.filter fun entry => entry.1 ≠ name
    shared := session.shared.filter (· ≠ name) }

/-- Gives a variable a value, or takes it away. -/
def restore (session : Session) (name : String) : Option String → Session
  | some value => session.assign name value
  | none => session.unset name

/-- Lets programs see a variable. -/
def share (session : Session) (name : String) : Session :=
  { session with shared := name :: session.shared.filter (· ≠ name) }

/-- The separators of fields. -/
def separators (session : Session) : String :=
  (session.value? "IFS").getD " \t\n"

/-! ## Channels -/

/-- The stream to which a channel leads. -/
def stream? (session : Session) (channel : Nat) : Option Stream :=
  (session.channels.lookup channel).bind fun index => session.streams[index]?

/-- Lets a channel lead to a stream with a number, or to nowhere. -/
def connect (session : Session) (channel : Nat) (stream : Option Nat) : Session :=
  let others := session.channels.filter fun entry => entry.1 ≠ channel
  { session with
    channels := match stream with
      | some index => (channel, index) :: others
      | none => others }

/-- Lets a channel lead to a new stream. -/
def connectNew (session : Session) (channel : Nat) (stream : Stream) : Session :=
  let (index, machine) := session.addStream stream
  { session with toMachine := machine }.connect channel (some index)

/-- The session with what its process holds put on record. -/
def recorded (session : Session) : Session :=
  { session with
    toMachine := session.changeEntry session.self fun entry =>
      { entry with streams := session.held ++ session.channels.map Prod.snd } }

/-- What can be read from a channel. -/
structure Available where
  /-- The bytes, among others. -/
  content : ByteArray
  /-- Where they begin. -/
  start : Nat
  /-- The pipe from which more may come. -/
  pipe : Option Nat

/-- The number of bytes that can be read. -/
def Available.size (found : Available) : Nat :=
  found.content.size - found.start

/-- Some bytes of chance. -/
def chance (seed : Nat) : ByteArray :=
  let step (state : Nat × ByteArray) : Nat × ByteArray :=
    let next := (6364136223846793005 * state.1 + 1442695040888963407) % 0x10000000000000000
    (next, state.2.push (next / 0x100000000).toUInt8)
  (Nat.repeat step 4096 (seed, ByteArray.empty)).2

/-- What can be read from a channel now. -/
def available (session : Session) (channel : Nat) : Available :=
  match session.stream? channel with
  | some (.file number offset _) =>
    match (session.files.inode? number).map Inode.node with
    | some (.file content) => ⟨content, min offset content.size, none⟩
    | _ => ⟨ByteArray.empty, 0, none⟩
  | some (.source pipe) | some (.both pipe) =>
    match session.pipes[pipe]? with
    | some found =>
      let waits := session.recorded.isHeld (Stream.writes pipe)
      ⟨found.content, found.start, if waits then some pipe else none⟩
    | none => ⟨ByteArray.empty, 0, none⟩
  | some (.zeros _) => ⟨⟨Array.replicate 65536 0⟩, 0, none⟩
  | some (.noise seed) => ⟨chance seed, 0, none⟩
  | _ => ⟨ByteArray.empty, 0, none⟩

/-- Goes on by so many bytes in what is read from a channel. -/
def advance (session : Session) (channel count : Nat) : Session :=
  match session.channels.lookup channel with
  | none => session
  | some index =>
    match session.streams[index]? with
    | some (.file number offset atEnd) =>
      { session with toMachine := session.setStream index (.file number (offset + count) atEnd) }
    | some (.noise seed) =>
      { session with toMachine := session.setStream index (.noise (seed + 7919 * count + 1)) }
    | some (.source pipe) | some (.both pipe) =>
      { session with toMachine := session.changePipe pipe fun found => found.drop count }
    | _ => session

/-- Drops the streams and pipes that were made last and to which no channel leads any more. -/
def reclaim (session : Session) (streams pipes : Nat) : Session :=
  let inUse := session.recorded.processes.any fun entry =>
    entry.status.isNone && entry.streams.any fun index => streams ≤ index
  if inUse then session
  else
    { session with
      streams := session.streams.shrink streams
      pipes := if session.queues.isEmpty then session.pipes.shrink pipes else session.pipes }

/-- Takes note of the processes of jobs that have ended. -/
def reaped (session : Session) : Session :=
  let ended := session.jobs.flatMap fun job =>
    (job.children.filter fun child => child.status.isNone).filterMap fun child =>
      (session.status? child.number).map (child.number, ·)
  if ended.isEmpty then session
  else
    { session with
      processes := session.processes.filter fun entry => (ended.lookup entry.number).isNone
      jobs := session.jobs.map fun job =>
        { job with
          children := job.children.map fun child =>
            { child with status := child.status.or (ended.lookup child.number) } } }

/-! ## Files -/

/-- The place to which a path leads. -/
def locate (session : Session) (path : String) : Except FileError Place :=
  session.files.locate session.here (Octets.toText path)

/-- The place that a path names; a symbolic link there is not followed. -/
def locateName (session : Session) (path : String) : Except FileError Place :=
  session.files.locateName session.here (Octets.toText path)

/-- What stands where a path leads. -/
def node? (session : Session) (path : String) : Option Node :=
  match session.locate path with
  | .ok place => session.files.node? place
  | .error _ => none

/-- What stands at a place that a path names. -/
def nodeNamed? (session : Session) (path : String) : Option Node :=
  match session.locateName path with
  | .ok place => session.files.node? place
  | .error _ => none

/-- What a number stands for to which a path leads, with the number. -/
def inode? (session : Session) (path : String) : Option (Nat × Inode) :=
  match session.locate path with
  | .ok place =>
    (session.files.number? place).bind fun number =>
      (session.files.inode? number).map (number, ·)
  | .error _ => none

/-- Whether a path leads to a directory. -/
def hasDirectory (session : Session) (path : String) : Bool :=
  (session.node? path).any Node.isDirectory

/-- The content of a file. -/
def contents (session : Session) (path : String) : Except FileError String :=
  match session.files.read session.here (Octets.toText path) with
  | .ok content => .ok (Octets.ofBytes content)
  | .error cause => .error cause

/-- Whether a path leads to a file that can be run as a program. -/
def canRun (session : Session) (path : String) : Bool :=
  match session.inode? path with
  | some (_, ⟨.file _, mode, _⟩) => mode &&& 0x49 ≠ 0
  | _ => false

/-- The path of the file that runs under a name. A name without a slash is looked for in the
directories of programs. -/
def program? (session : Session) (name : String) : Option String :=
  let directories := if session.isShell then session.value "PATH"
    else (session.value? "PATH").getD "/bin:/usr/bin"
  let paths :=
    if name.contains '/' then [name]
    else (directories.splitOn ":").map fun directory =>
      if directory = "" then name else directory ++ "/" ++ name
  paths.find? session.canRun

/-- The place of a file that is to be written: nothing but a file may stand there, and its directory
must exist. -/
def placeFor (session : Session) (path : String) : Except FileError Place :=
  match session.locate path with
  | .error cause => .error cause
  | .ok place =>
    match session.files.node? place with
    | some .directory => .error .isADirectory
    | some _ => .ok place
    | none =>
      if session.files.hasDirectory place.dropLast && FileTree.takesNew place then .ok place
      else .error .notFound

/-- Puts something new at a place, with the permissions that it gets now. -/
def create (session : Session) (place : Place) (node : Node) : Session :=
  let mode := match node with
    | .link _ => 0x1ff
    | .directory => 0x1ff - (0x1ff &&& session.mask)
    | _ => 0x1b6 - (0x1b6 &&& session.mask)
  { session with files := session.files.add place ⟨node, mode, session.time⟩ }

/-- Changes the content of the file with a number. -/
def write (session : Session) (number : Nat) (content : ByteArray) : Session :=
  { session with
    files := session.files.change number fun inode =>
      { inode with node := .file content, time := session.time } }

/-- Puts a content into the file at a place, which is made if it is missing. -/
def store (session : Session) (place : Place) (content : ByteArray) : Session :=
  match session.files.number? place with
  | some number =>
    match session.files.node? place with
    | some (.file _) => session.write number content
    | _ => session
  | none => session.create place (.file content)

end Session

/-- The directories of programs, where no variable names them. -/
def programDirectories : String :=
  "/usr/local/sbin:/usr/local/bin:/usr/sbin:/usr/bin:/sbin:/bin"

/-- A session with the variables with which a shell starts. It gets those of its environment, but
some are set whatever the environment says. -/
def Session.withEnvironment (session : Session) (environment : List (String × String)) : Session :=
  let standard := [("IFS", ""), ("PATH", programDirectories), ("PS1", "# "), ("PS2", "> "),
    ("PS4", "+ "), ("OPTIND", "")]
  let given := environment.filter fun entry => Session.isVariable entry.1
  let set := [("IFS", " \t\n"), ("OPTIND", "1"), ("PPID", toString session.parent),
    ("PWD", session.directory)]
  let start := { session with assignments := standard, shared := given.map Prod.fst ++ ["PWD"] }
  (given ++ set).foldl (fun session (name, value) => session.assign name value) start

/-- The variables that programs see, in the order in which they see them. A shell passes on those
that it shares. -/
def Session.environment (session : Session) : List (String × String) :=
  let bucket (name : String) : Nat :=
    (16 * ((name.toList.head?.map Char.toNat).getD 0) +
      name.toList.foldl (fun n c => n + c.toNat) 0) % 39
  let seen := session.assignments.filter fun entry => session.shared.contains entry.1
  if !session.isShell then session.assignments
  else (List.range 39).flatMap fun n => seen.filter fun entry => bucket entry.1 == n

end Compositor.Script
