import Compositor.Launch.Command
import Compositor.Logging.Setup
import Compositor.Simulation.Script.Programs
import Compositor.Simulation.Script.Running

set_option autoImplicit false

/-!
# A simulated machine

A machine that is kept as a value: it has files, a working directory and variables, and plays the
shell itself. It is one of the hosts on which the compositor can run. Nothing is said of the
compositor by way of it.

## Main definitions

* `Simulation` — a simulated machine.
* `Simulation.host` — what it answers.
* `Simulation.spawn` — the machine once a startup command has run.
-/

namespace Compositor

/-- The variables of the process, and the home directory of the user's account. -/
structure Variables where
  /-- The variables with their values. -/
  assignments : List (String × String)
  /-- The home directory of the account, if it is known. -/
  accountHome : Option String

/-- The variable that names a base directory. -/
def BaseDirectory.variableName : BaseDirectory → String
  | config => "XDG_CONFIG_HOME"
  | data => "XDG_DATA_HOME"

/-- Where a base directory lies below the home directory, unless a variable names it. -/
def BaseDirectory.standard : BaseDirectory → String
  | config => ".config"
  | data => ".local/share"

namespace Variables

/-- The value of a variable. -/
def get? (surroundings : Variables) (name : String) : Option String :=
  surroundings.assignments.lookup name

/-- The user's home directory. -/
def home? (surroundings : Variables) : Option String :=
  match surroundings.get? "HOME" with
  | some home => if home = "" then surroundings.accountHome else some home
  | none => surroundings.accountHome

/-- The base directory for a purpose. A variable counts only if it holds an absolute path. -/
def directory? (surroundings : Variables) (purpose : BaseDirectory) : Option String :=
  surroundings.home?.map fun home =>
    match (surroundings.get? purpose.variableName).filter Path.isAbsolute with
    | some path => path
    | none => Path.join home purpose.standard

end Variables

/-- A simulated machine. -/
structure Simulation where
  /-- The files. -/
  files : FileTree
  /-- The working directory. -/
  here : Place
  /-- The variables. -/
  surroundings : Variables

namespace Simulation

/-! ## Files -/

/-- The text of a file. -/
def readText (machine : Simulation) (path : String) : Except FileError String :=
  machine.files.readText machine.here path

/-- Makes a directory with all those above it. -/
def makeDirectories (machine : Simulation) (path : String) : Except FileError Unit × Simulation :=
  let made := machine.files.makeDirectories machine.here path
  (made.1, { machine with files := made.2 })

/-- The number of bytes that the day adds to the name of a log file. -/
def dayLength : Nat := ".0000-00-00".utf8ByteSize

/-- Whether a log file can be opened in a directory. -/
def openLog (machine : Simulation) (directory name : String) : Except FileError Unit :=
  if hasNul name then .error .nulInPath
  else if FileTree.nameLimit < name.utf8ByteSize + dayLength then .error .nameTooLong
  else if FileTree.pathLimit ≤ (Path.join directory name).utf8ByteSize + dayLength then
    .error .nameTooLong
  else
    match machine.files.locate machine.here directory with
    | .error cause => .error cause
    | .ok place => if FileTree.takesNew place then .ok () else .error .notFound

/-! ## The shell -/

/-- The number of the process that runs the shell. -/
def shellProcess : Nat := 1000

/-- The microseconds that have passed on the clock when the shell starts. -/
def startTime : Nat := 1000000

/-- The directory of the programs. -/
def programPlace : Place := ["usr", "bin"]

/-- Files with the programs of the machine, among them the shell under both of its names. -/
def installed (files : FileTree) : FileTree :=
  ("sh" :: "dash" :: Script.Programs.table.map Prod.fst).foldl
    (fun files name =>
      files.add (programPlace ++ [name])
        ⟨.file (Octets.toBytes (Script.programMark ++ name)), 0x1ed, 0⟩)
    files

/-- The session of the shell that runs a startup command. Its input is empty and nobody reads what
it writes. It finds the name of the socket in its environment, and always the directories of
programs. -/
def session (machine : Simulation) (socket : String) : Script.Session :=
  let others := machine.surroundings.assignments.filter fun entry => entry.1 ≠ Launch.displayVariable
  let given := ((Launch.displayVariable, socket) :: others).map fun (name, value) =>
    (Octets.ofText name, Octets.ofText value)
  let environment := if (given.lookup "PATH").isSome then given
    else ("PATH", Script.programDirectories) :: given
  { files := installed machine.files
    streams := #[.nothing]
    pipes := #[]
    queues := []
    clock := startTime
    processes := [⟨shellProcess, none, none, [0], []⟩]
    nextProcess := shellProcess + 1
    self := shellProcess
    isShell := true
    process := shellProcess
    parent := shellProcess - 1
    here := machine.here
    directory := Octets.ofText (Place.path machine.here)
    mask := 0x12
    name := "/bin/sh"
    arguments := []
    assignments := []
    shared := []
    fixed := []
    functions := []
    aliases := []
    status := 0
    substituted := 0
    line := 1
    activity := none
    obstacle := none
    options := []
    channels := [(0, 0), (1, 0), (2, 0)]
    held := []
    traps := []
    caught := []
    loops := 0
    depth := 0
    frames := []
    jobs := []
    lastJob := none
    optionIndex := 1
    optionOffset := none
    remembered := [] : Script.Session }.withEnvironment environment

/-- Whether a file stands at a path. -/
def isThere (here : Place) (path : String) (machine : Script.Machine) : Bool :=
  match machine.files.locate here path with
  | .ok place => (machine.files.node? place).isSome
  | .error _ => false

/-! ## The machine as a host -/

/-- What the machine answers. It starts every process and thread. -/
def host (machine : Simulation) : Host where
  environment := ⟨machine.surroundings.directory?⟩
  readText path := (machine.readText path).mapError FileError.report
  makeDirectories path := (machine.makeDirectories path).1.mapError FileError.report
  openLog directory name :=
    ((machine.makeDirectories directory).2.openLog directory name).mapError FileError.report
  startShell _ _ := .ok shellProcess
  startThread _ := .ok ()

/-- The machine after it has been asked to make a directory, if it has. -/
def asked (machine : Simulation) (directory : Option String) : Simulation :=
  directory.elim machine fun path => (machine.makeDirectories path).2

/-- Starts a command with the name of the socket in its environment. How it ends makes no
difference. It runs to its end, or until soon after the time at which there is a file at a path that
is waited for. -/
def spawn (machine : Simulation) (command socket : String) (awaited : Option String) :
    Except Failure Simulation :=
  (Launch.run machine.host command socket).map fun _ =>
    let isEnough (now : Script.Machine) : Bool :=
      awaited.any fun path => isThere machine.here path now
    let ended := Script.run Script.Programs.named? isEnough (machine.session socket)
      (Octets.ofText command)
    { machine with files := ended.files }

end Simulation

end Compositor
