set_option autoImplicit false

/-!
# Signals

Signals are known by their names, and each has a number.

## Main definitions

* `Script.Signal.number`, `Script.Signal.named?` — the numbers of signals.
* `Script.Signal.ofText?` — the signal that a text names.
* `Script.Signal.status` — the status of what a signal has ended.
* `Script.Signal.obituary` — what is written about it.
-/

namespace Compositor.Script.Signal

/-- The names of signals with their numbers. -/
def table : List (String × Nat) :=
  [("EXIT", 0), ("HUP", 1), ("INT", 2), ("QUIT", 3), ("ILL", 4), ("TRAP", 5), ("ABRT", 6),
    ("BUS", 7), ("FPE", 8), ("KILL", 9), ("USR1", 10), ("SEGV", 11), ("USR2", 12), ("PIPE", 13),
    ("ALRM", 14), ("TERM", 15), ("CHLD", 17), ("CONT", 18), ("STOP", 19), ("TSTP", 20),
    ("TTIN", 21), ("TTOU", 22), ("URG", 23), ("XCPU", 24), ("XFSZ", 25), ("VTALRM", 26),
    ("PROF", 27), ("WINCH", 28), ("IO", 29), ("PWR", 30), ("SYS", 31)]

/-- The number of a signal. -/
def number (name : String) : Nat :=
  (table.lookup name).getD 15

/-- The signal with a number. -/
def named? (number : Nat) : Option String :=
  (table.find? fun entry => entry.2 == number).map Prod.fst

/-- The signal that a text names, by its number or by its name in any case. -/
def ofText? (text : String) : Option String :=
  match text.toNat? with
  | some n => named? n
  | none =>
    let name := String.ofList (text.toList.map Char.toUpper)
    if (table.lookup name).isSome then some name else none

/-- The signals that do nothing to a process that does not care about them. -/
def harmless : List String :=
  ["EXIT", "CHLD", "CONT", "STOP", "TSTP", "TTIN", "TTOU", "URG", "WINCH"]

/-- The status of a process that a signal has ended. -/
def status (name : String) : Nat :=
  128 + number name

/-- What is written about a process that a signal has ended. -/
def obituary (name : String) : String :=
  match name with
  | "HUP" => "Hangup"
  | "QUIT" => "Quit"
  | "ILL" => "Illegal instruction"
  | "TRAP" => "Trace/breakpoint trap"
  | "ABRT" => "Aborted"
  | "BUS" => "Bus error"
  | "FPE" => "Floating point exception"
  | "KILL" => "Killed"
  | "USR1" => "User defined signal 1"
  | "SEGV" => "Segmentation fault"
  | "USR2" => "User defined signal 2"
  | "ALRM" => "Alarm clock"
  | "TERM" => "Terminated"
  | _ => ""

end Compositor.Script.Signal
