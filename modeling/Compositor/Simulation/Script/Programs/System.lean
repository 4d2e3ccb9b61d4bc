import Compositor.Simulation.Script.Calendar
import Compositor.Simulation.Script.Programs.Making

set_option autoImplicit false

/-!
# Programs that tell about the machine

They tell who the user is, what the system is called, where programs are and what time it is.

## Main definitions

* `Script.Programs.id` — tells who the user is.
* `Script.Programs.uname` — tells what the system is called.
* `Script.Programs.which` — tells where programs are.
* `Script.Programs.date` — tells the time.
-/

namespace Compositor.Script.Programs

/-! ## The user -/

/-- Tells who the user is. -/
def userFacts : Utility := fun arguments => do
  let grammar := Grammar.standard "id" "agGnruzZ"
    [("group", "g"), ("groups", "G"), ("name", "n"), ("real", "r"), ("user", "u"), ("zero", "z"),
      ("context", "Z")]
  let options ← grammar.take arguments
  let kinds := ["g", "G", "u"].filter options.has
  if 1 < kinds.length then quit "id" 1 "cannot print \"only\" of more than one choice"
  if kinds.isEmpty && (options.has "n" || options.has "r") then
    quit "id" 1 "printing only names or real IDs requires -u, -g, or -G"
  match options.operands.find? fun name => name ≠ "root" && name ≠ "0" with
  | some name => quit "id" 1 (inQuotes name ++ ": no such user")
  | none => pure ()
  Shell.put (if kinds.isEmpty then "uid=0(root) gid=0(root) groups=0(root)\n"
    else if options.has "n" then "root\n" else "0\n")
  Shell.finish 0

/-- Writes a text, after options of which only some are known. -/
def constantText (program text : String) : Utility := fun arguments => do
  let options ← (Grammar.standard program "" []).take arguments
  match options.operands with
  | [] =>
    Shell.put (text ++ "\n")
    Shell.finish 0
  | operand :: _ => (Grammar.standard program "" []).extraOperand operand

/-- Tells that there is no terminal. -/
def terminal : Utility := fun arguments => do
  let options ← (Grammar.standard "tty" "s" [("silent", "s"), ("quiet", "s")]
    |>.failingWith 2).take arguments
  if !options.has "s" then Shell.put "not a tty\n"
  Shell.finish 1

/-! ## The system -/

/-- The facts about the system by their letters. -/
def systemFacts : List (String × String) :=
  [("s", "Linux"), ("n", "localhost"), ("r", "6.1.0"), ("v", "#1 SMP PREEMPT_DYNAMIC"),
    ("m", "x86_64"), ("p", "unknown"), ("i", "unknown"), ("o", "GNU/Linux")]

/-- Tells what the system is called. -/
def systemName : Utility := fun arguments => do
  let grammar := Grammar.standard "uname" "asnrvmpio"
    [("all", "a"), ("kernel-name", "s"), ("nodename", "n"), ("kernel-release", "r"),
      ("kernel-version", "v"), ("machine", "m"), ("processor", "p"), ("hardware-platform", "i"),
      ("operating-system", "o")]
  let options ← grammar.take arguments
  match options.operands with
  | operand :: _ => grammar.extraOperand operand
  | [] =>
    let wanted := systemFacts.filter fun (letter, _) =>
      (options.has "a" && letter ≠ "p" && letter ≠ "i") || options.has letter ||
        (options.given.isEmpty && letter = "s")
    Shell.put (" ".intercalate (wanted.map Prod.snd) ++ "\n")
    Shell.finish 0

/-- Tells how many processors there are. -/
def processorCount : Utility := fun arguments => do
  let grammar := Grammar.standard "nproc" "" [("all", "all"), ("ignore:", "ignore")]
  let options ← grammar.take arguments
  let ignored := ((options.value? "ignore").bind String.toNat?).getD 0
  Shell.put (toString (max 1 (4 - ignored)) ++ "\n")
  Shell.finish 0

/-- Tells where programs are. -/
def which : Utility := fun arguments => do
  let (options, names) := (arguments.takeWhile fun word => word.startsWith "-",
    arguments.dropWhile fun word => word.startsWith "-")
  let session ← get
  let directories := (session.value "PATH").splitOn ":"
  Shell.finish (if names.isEmpty then 1 else 0)
  for name in names do
    let paths := if name.contains '/' then [name]
      else directories.map fun directory =>
        (if directory = "" then "." else directory) ++ "/" ++ name
    let found := paths.filter session.canRun
    if found.isEmpty then Shell.finish 1
    Shell.put (ofLines (if options.any fun word => word.contains 'a' then found
      else found.take 1))

/-! ## The time -/

/-- The time in a standard form, as exact as a name says. -/
def standardForm (separator : String) (exactness : String) : String :=
  match exactness with
  | "h" | "ho" | "hour" | "hours" => "%Y-%m-%d" ++ separator ++ "%H%:z"
  | "m" | "minute" | "minutes" => "%Y-%m-%d" ++ separator ++ "%H:%M%:z"
  | "s" | "second" | "seconds" => "%Y-%m-%d" ++ separator ++ "%H:%M:%S%:z"
  | "n" | "ns" => "%Y-%m-%d" ++ separator ++ "%H:%M:%S" ++
      (if separator = "T" then "," else ".") ++ "%N%:z"
  | _ => "%Y-%m-%d"

/-- Tells the time. -/
def date : Utility := fun arguments => do
  let grammar := Grammar.standard "date" "d:f:I::r:Rs:u"
    [("date:", "d"), ("file:", "f"), ("iso-8601::", "I"), ("reference:", "r"), ("rfc-email", "R"),
      ("rfc-2822", "R"), ("rfc-3339:", "3339"), ("set:", "s"), ("utc", "u"), ("universal", "u"),
      ("debug", "debug"), ("resolution", "resolution")]
  let options ← grammar.take arguments
  let format ← match options.operands with
    | [] => pure none
    | [word] =>
      if word.startsWith "+" then pure (some (dropFront 1 word))
      else quit "date" 1 ("invalid date " ++ inQuotes word)
    | word :: other :: _ =>
      if word.startsWith "+" || options.has "d" then grammar.extraOperand other
      else grammar.extraOperand other
  let shape := match options.last? ["I", "R", "3339"] with
    | some "I" => standardForm "T" ((options.value? "I").getD "")
    | some "R" => "%a, %d %b %Y %H:%M:%S %z"
    | some _ => standardForm " " ((options.value? "3339").getD "")
    | none => format.getD "%a %b %e %H:%M:%S %Z %Y"
  let session ← get
  let show_ (time : Nat) : Shell Unit :=
    Shell.put (Calendar.formatted (time / 1000000 : Nat) (time % 1000000 * 1000) shape ++ "\n")
  Shell.finish 0
  match options.last? ["d", "f", "r"] with
  | some "d" =>
    let text := (options.value? "d").getD ""
    match describedMoment? session text with
    | some (seconds, parts) => Shell.put (Calendar.formatted seconds parts shape ++ "\n")
    | none => quit "date" 1 ("invalid date " ++ inQuotes text)
  | some "r" =>
    let path := (options.value? "r").getD ""
    match session.inode? path with
    | some (_, inode) => show_ inode.time
    | none => quit "date" 1 (path ++ ": No such file or directory")
  | some _ =>
    match ← inputOf ((options.value? "f").getD "") with
    | .error cause => quit "date" 1 ((options.value? "f").getD "" ++ ": " ++ cause)
    | .ok text =>
      for line in linesOf text do
        match describedMoment? session line with
        | some (seconds, parts) => Shell.put (Calendar.formatted seconds parts shape ++ "\n")
        | none =>
          report "date" ("invalid date " ++ inQuotes line)
          Shell.finish 1
  | none => show_ (session.clock + Machine.epoch)

/-- The programs that tell about the machine. -/
def systemTable : List (String × Program) :=
  [("id", alone userFacts), ("whoami", alone (constantText "whoami" "root")),
    ("groups", alone (constantText "groups" "root")), ("tty", alone terminal),
    ("logname", alone fun _ => quit "logname" 1 "no login name"),
    ("uname", alone systemName), ("arch", alone (constantText "arch" "x86_64")),
    ("hostname", alone (constantText "hostname" "localhost")), ("nproc", alone processorCount),
    ("which", alone which), ("date", alone date)]

end Compositor.Script.Programs
