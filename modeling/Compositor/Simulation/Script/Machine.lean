import Compositor.Simulation.Files.Tree

set_option autoImplicit false

/-!
# The machine of the shell

What all running commands share: the files, the streams to which their channels lead, the time, and
the table of processes. A stream is an open file with its position, or an end of a pipe; several
channels may lead to one stream and then share its position. Files and commands deal in bytes: a
text of octets is a text each of whose characters stands for one byte, so that all the functions on
texts can be used for bytes.

## Main definitions

* `Octets.ofBytes`, `Octets.toBytes` — bytes as characters and back.
* `Octets.ofText`, `Octets.toText` — the bytes by which a text is stored, and back.
* `Script.Stream`, `Script.Pipe` — what channels lead to.
* `Script.Entry` — what is known of a process.
* `Script.Machine` — the machine.
* `Script.Machine.isHeld` — whether a process still has a stream of some kind.
-/

namespace Compositor

namespace Octets

/-- The character that stands for a byte. -/
def character (byte : UInt8) : Char :=
  Char.ofNat byte.toNat

/-- Bytes as characters. -/
def ofBytes (bytes : ByteArray) : String :=
  String.ofList (bytes.toList.map character)

/-- The bytes for which characters stand. -/
def toBytes (octets : String) : ByteArray :=
  ⟨(octets.toList.map fun c => c.toNat.toUInt8).toArray⟩

/-- The bytes by which a text is stored. -/
def ofText (text : String) : String :=
  ofBytes text.toUTF8

/-- The text that bytes store. Bytes that store no text are left as they are. -/
def toText (octets : String) : String :=
  (String.fromUTF8? (toBytes octets)).getD octets

end Octets

namespace Script

/-- What channels lead to. -/
inductive Stream where
  /-- Nothing can be read, and what is written is dropped. -/
  | nothing
  /-- Zero bytes without end; what is written is dropped, or refused if the device is full. -/
  | zeros (isFull : Bool)
  /-- Bytes of chance without end; what is written is dropped. -/
  | noise (seed : Nat)
  /-- A directory, which cannot be read as a file. -/
  | directory
  /-- A file with a number, at a position. Some streams write at the end in any case. -/
  | file (number offset : Nat) (atEnd : Bool)
  /-- The end of a pipe from which is read. -/
  | source (pipe : Nat)
  /-- The end of a pipe to which is written. -/
  | sink (pipe : Nat)
  /-- Both ends of a pipe. -/
  | both (pipe : Nat)

/-- Whether a pipe can be read through a stream. -/
def Stream.reads (pipe : Nat) : Stream → Bool
  | source other | both other => other == pipe
  | _ => false

/-- Whether a pipe can be written through a stream. -/
def Stream.writes (pipe : Nat) : Stream → Bool
  | sink other | both other => other == pipe
  | _ => false

/-- What was written to a pipe. -/
structure Pipe where
  /-- All that was written since the pipe was empty. -/
  content : ByteArray
  /-- How much of it has been read. -/
  start : Nat
  /-- Whether writers wait when there is much to read. -/
  bounded : Bool
  /-- How often it has been opened for reading. -/
  readers : Nat
  /-- How often it has been opened for writing. -/
  writers : Nat

/-- The number of bytes in a pipe from which on writers wait. -/
def Pipe.limit : Nat := 65536

/-- The number of bytes that can be read. -/
def Pipe.size (pipe : Pipe) : Nat :=
  pipe.content.size - pipe.start

/-- A pipe with more bytes. -/
def Pipe.push (pipe : Pipe) (bytes : ByteArray) : Pipe :=
  { pipe with content := pipe.content ++ bytes }

/-- A pipe from which bytes have been read. What has been read is dropped now and then. -/
def Pipe.drop (pipe : Pipe) (count : Nat) : Pipe :=
  let start := pipe.start + count
  if pipe.content.size ≤ start then { pipe with content := ByteArray.empty, start := 0 }
  else if pipe.content.size ≤ 2 * start then
    { pipe with content := pipe.content.extract start pipe.content.size, start := 0 }
  else { pipe with start := start }

/-- What is known of a process. -/
structure Entry where
  /-- The number of the process. -/
  number : Nat
  /-- The status with which it has ended, if it has. -/
  status : Option Nat
  /-- The signal that has ended it, if one has. -/
  ending : Option String
  /-- The streams to which its channels lead. -/
  streams : List Nat
  /-- The signals that have been sent to it and not yet been noticed. -/
  signals : List String

/-- What all running commands share. -/
structure Machine where
  /-- The files. -/
  files : FileTree
  /-- The streams. -/
  streams : Array Stream
  /-- The pipes. -/
  pipes : Array Pipe
  /-- The numbers of the files that are pipes with names, with their pipes. -/
  queues : List (Nat × Nat)
  /-- The time in microseconds. -/
  clock : Nat
  /-- The processes. -/
  processes : List Entry
  /-- The number of the next process. -/
  nextProcess : Nat

namespace Machine

/-! ## Time -/

/-- The microseconds before the clock begins to run. -/
def epoch : Nat := 1750000000000000

/-- The time that files are given. It advances in small steps. -/
def time (machine : Machine) : Nat :=
  epoch + machine.clock / 4000 * 4000

/-! ## Streams -/

/-- Adds a stream, whose number is returned. -/
def addStream (machine : Machine) (stream : Stream) : Nat × Machine :=
  (machine.streams.size, { machine with streams := machine.streams.push stream })

/-- Adds a pipe, whose number is returned. -/
def addPipe (machine : Machine) (bounded : Bool) (content : ByteArray) : Nat × Machine :=
  (machine.pipes.size, { machine with pipes := machine.pipes.push ⟨content, 0, bounded, 0, 0⟩ })

/-- Changes a stream. -/
def setStream (machine : Machine) (index : Nat) (stream : Stream) : Machine :=
  { machine with streams := machine.streams.setIfInBounds index stream }

/-- Changes a pipe. -/
def changePipe (machine : Machine) (index : Nat) (update : Pipe → Pipe) : Machine :=
  { machine with pipes := machine.pipes.modify index update }

/-- The number of bytes that can be read from a pipe. -/
def pipeSize (machine : Machine) (index : Nat) : Nat :=
  ((machine.pipes[index]?).map Pipe.size).getD 0

/-- Whether a process that has not ended has a stream of some kind. -/
def isHeld (machine : Machine) (kind : Stream → Bool) : Bool :=
  machine.processes.any fun entry =>
    entry.status.isNone && entry.streams.any fun index => (machine.streams[index]?).any kind

/-! ## Processes -/

/-- What is known of the process with a number. -/
def record? (machine : Machine) (number : Nat) : Option Entry :=
  machine.processes.find? fun entry => entry.number == number

/-- Changes what is known of a process. -/
def changeEntry (machine : Machine) (number : Nat) (update : Entry → Entry) : Machine :=
  { machine with
    processes := machine.processes.map fun entry =>
      if entry.number = number then update entry else entry }

/-- The status with which a process has ended. -/
def status? (machine : Machine) (number : Nat) : Option Nat :=
  (machine.record? number).bind Entry.status

/-- Whether a process has been sent a signal that it has not noticed. -/
def isCalled (machine : Machine) (number : Nat) : Bool :=
  (machine.record? number).any fun entry => !entry.signals.isEmpty

/-- Adds a process, whose number is returned. -/
def addProcess (machine : Machine) (streams : List Nat) : Nat × Machine :=
  let entry : Entry := ⟨machine.nextProcess, none, none, streams, []⟩
  (machine.nextProcess,
    { machine with
      processes := machine.processes ++ [entry]
      nextProcess := machine.nextProcess + 1 })

/-- Forgets a process. -/
def forget (machine : Machine) (number : Nat) : Machine :=
  { machine with processes := machine.processes.filter fun entry => entry.number ≠ number }

/-- Sends a signal to a process. -/
def send (machine : Machine) (number : Nat) (signal : String) : Machine :=
  machine.changeEntry number fun entry => { entry with signals := entry.signals ++ [signal] }

/-- Ends a process, perhaps by a signal. -/
def finish (machine : Machine) (number status : Nat) (signal : Option String) : Machine :=
  machine.changeEntry number fun entry =>
    { entry with status := some status, ending := signal, streams := [] }

end Machine

end Script

end Compositor
