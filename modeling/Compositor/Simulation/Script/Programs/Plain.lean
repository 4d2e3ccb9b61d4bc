import Compositor.Simulation.Script.Builtins
import Compositor.Simulation.Script.Programs.Basic

set_option autoImplicit false

/-!
# Programs beside the commands of the shell

Some commands of the shell exist as programs too, which are run where no shell looks at a name. They
differ a little: what they write by themselves names them, and the program that writes its arguments
takes escapes as they are unless an option says otherwise.

## Main definitions

* `Script.Programs.echo` — writes its arguments.
* `Script.Programs.printf` — writes text by a format.
* `Script.Programs.test` — tests a condition.
* `Script.Programs.plainTable` — the programs beside the commands of the shell.
-/

namespace Compositor.Script.Programs

/-- The value of a hexadecimal digit. -/
def hexDigit? (c : Char) : Option Nat :=
  if c.isDigit then some (c.toNat - '0'.toNat)
  else if 'a' ≤ c && c ≤ 'f' then some (c.toNat - 'a'.toNat + 10)
  else if 'A' ≤ c && c ≤ 'F' then some (c.toNat - 'A'.toNat + 10)
  else none

/-- The hexadecimal number of up to two digits at the front of a text, and what follows it. -/
def leadingByte? (text : List Char) : Option (Nat × List Char) :=
  let digits := (text.take 2).filterMap hexDigit?
  let count := ((text.take 2).takeWhile fun c => (hexDigit? c).isSome).length
  if count = 0 then none
  else some ((digits.take count).foldl (fun n digit => 16 * n + digit) 0, text.drop count)

/-- A text with its escapes replaced, and whether an escape ends all output, as far as the fuel
goes. -/
def unescapedUpTo : Nat → List Char → List Char × Bool
  | 0, text => (text, false)
  | _, [] => ([], false)
  | _, '\\' :: 'c' :: _ => ([], true)
  | fuel + 1, '\\' :: 'x' :: rest =>
    match leadingByte? rest with
    | some (n, rest) =>
      let (text, ends) := unescapedUpTo fuel rest
      (Char.ofNat n :: text, ends)
    | none =>
      let (text, ends) := unescapedUpTo fuel rest
      ('\\' :: 'x' :: text, ends)
  | fuel + 1, '\\' :: '0' :: rest =>
    let digits := (rest.take 3).takeWhile isOctal
    let (text, ends) := unescapedUpTo fuel (rest.drop digits.length)
    (ofOctal digits :: text, ends)
  | fuel + 1, '\\' :: rest =>
    let (c, rest) := escape rest
    let (text, ends) := unescapedUpTo fuel rest
    (c :: text, ends)
  | fuel + 1, c :: rest =>
    let (text, ends) := unescapedUpTo fuel rest
    (c :: text, ends)

/-- The letters of options in front of arguments, and the other arguments. -/
def echoOptions : List String → List Char × List String
  | [] => ([], [])
  | argument :: rest =>
    match argument.toList with
    | '-' :: c :: letters =>
      if (c :: letters).all ['n', 'e', 'E'].contains then
        let (more, words) := echoOptions rest
        (c :: letters ++ more, words)
      else ([], argument :: rest)
    | _ => ([], argument :: rest)

/-- Writes its arguments. -/
def echo : Utility := fun arguments => do
  let (letters, words) := echoOptions arguments
  let ending := if letters.contains 'n' then "" else "\n"
  let text := " ".intercalate words
  let replaces := (letters.filter (· ≠ 'n')).getLast? == some 'e'
  let (shown, ends) := if replaces then unescapedUpTo (text.length + 1) text.toList
    else (text.toList, false)
  Shell.put (String.ofList shown ++ if ends then "" else ending)
  Shell.finish 0

/-- A format in which characters are given by octal numbers where they were given by hexadecimal
ones, as far as the fuel goes. -/
def withOctals : Nat → List Char → List Char
  | 0, text => text
  | _, [] => []
  | fuel + 1, '\\' :: 'x' :: rest =>
    match leadingByte? rest with
    | some (n, rest) => '\\' :: (Mode.octal 3 n).toList ++ withOctals fuel rest
    | none => '\\' :: 'x' :: withOctals fuel rest
  | fuel + 1, '\\' :: c :: rest => '\\' :: c :: withOctals fuel rest
  | fuel + 1, c :: rest => c :: withOctals fuel rest

/-- Writes text by a format. -/
def printf : Utility := fun arguments => do
  let words := if arguments.head? == some "--" then arguments.tail else arguments
  match words with
  | [] => (Grammar.standard "printf" "" []).missingOperand none
  | format :: values =>
    let result := printed (String.ofList (withOctals format.length format.toList)) values
    Shell.put (String.ofList result.text)
    for warning in result.warnings do
      report "printf" warning
    match result.invalid with
    | some place => quit "printf" 1 (place ++ ": invalid conversion specification")
    | none => Shell.finish (if result.warnings.isEmpty then 0 else 1)

/-- Tests a condition. -/
def test (name : String) : Utility := fun arguments => do
  match Condition.holds (← get) arguments with
  | .ok answer => Shell.finish (if answer then 0 else 1)
  | .error message => quit name 2 message

/-- Tests a condition between brackets. -/
def bracket : Utility := fun arguments => do
  if arguments.getLast? = some "]" then test "[" arguments.dropLast
  else quit "[" 2 "missing \x27]\x27"

/-- Writes the path of the working directory. -/
def pwd : Utility := fun arguments => do
  let options ← (Grammar.standard "pwd" "LP" [("logical", "L"), ("physical", "P")]).take arguments
  let session ← get
  let logical := session.value "PWD"
  let isRight := logical.startsWith "/" &&
    (session.locate logical).toOption == some session.here
  Shell.put ((if options.last? ["L", "P"] == some "L" && isRight then logical
    else Octets.ofText (Place.path session.here)) ++ "\n")
  Shell.finish 0

/-- Sends signals to processes. -/
def kill : Utility := fun arguments => do
  let (signal, rest) := match arguments with
    | "-s" :: name :: rest => (Signal.ofText? name, rest)
    | first :: rest =>
      match first.toList with
      | '-' :: name => (Signal.ofText? (String.ofList name), rest)
      | _ => (some "TERM", first :: rest)
    | [] => (none, [])
  match signal, rest with
  | some signal, _ :: _ =>
    Shell.finish 0
    for argument in rest do
      let session ← get
      match argument.toNat?.bind fun n => (session.record? n).map Entry.number with
      | some number =>
        modify fun session => { session with toMachine := session.send number signal }
      | none =>
        report "kill" ("(" ++ argument ++ "): No such process")
        Shell.finish 1
    Shell.notice
  | _, _ =>
    Shell.write 2 "Usage:\n kill [options] <pid> [...]\n"
    leave 1

/-- The programs beside the commands of the shell. -/
def plainTable : List (String × Program) :=
  [("true", alone (Builtins.constant 0)), ("false", alone (Builtins.constant 1)),
    ("echo", alone echo), ("printf", alone printf), ("test", alone (test "test")),
    ("[", alone bracket), ("pwd", alone pwd), ("kill", alone kill)]

end Compositor.Script.Programs
