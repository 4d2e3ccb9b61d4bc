import Compositor.Text.Reader

set_option autoImplicit false

/-!
# Permissions

What may be done with a file is a number of bits: three each for its owner, its group and all
others, and three more for special purposes. Changes are written with letters, or as octal digits.

## Main definitions

* `Script.Mode.change?` — the permissions after a change that is written down.
* `Script.Mode.text` — permissions as letters.
* `Script.Mode.octal` — permissions as octal digits.
-/

namespace Compositor.Script.Mode

open Reader

/-- The bits that letters for classes of users stand for. -/
def classes (letters : List Char) : Nat :=
  letters.foldl
    (fun bits c =>
      bits ||| match c with
        | 'u' => 0x9c0
        | 'g' => 0x438
        | 'o' => 0x207
        | _ => 0xfff)
    0

/-- The bits of some permissions for all classes, given what they are added to. -/
def permissions (isDirectory : Bool) (old : Nat) (letters : List Char) : Nat :=
  letters.foldl
    (fun bits c =>
      bits ||| match c with
        | 'r' => 0x124
        | 'w' => 0x92
        | 'x' => 0x49
        | 'X' => if isDirectory || old &&& 0x49 ≠ 0 then 0x49 else 0
        | 's' => 0xc00
        | 't' => 0x200
        | _ => 0)
    0

/-- The permissions of one class, for all classes. -/
def copied (old : Nat) (c : Char) : Nat :=
  let three := match c with
    | 'u' => old / 64 % 8
    | 'g' => old / 8 % 8
    | _ => old % 8
  three * 73

/-- A step of a change: a sign, and letters for permissions or for the class to copy. -/
structure Step where
  /-- The sign. -/
  sign : Char
  /-- The letters. -/
  letters : List Char

/-- Reads a step. -/
def step : Reader Step := do
  let sign ← only ['+', '-', '='].contains
  (do
    let c ← only ['u', 'g', 'o'].contains
    return ⟨sign, [c]⟩) <|>
  (do return ⟨sign, ← span ['r', 'w', 'x', 'X', 's', 't'].contains⟩)

/-- A clause of a change: letters for classes of users, and steps. -/
def clause : Reader (List Char × List Step) := do
  let who ← span ['u', 'g', 'o', 'a'].contains
  let first ← step
  return (who, first :: (← many step))

/-- The permissions after a step. -/
def Step.apply (isDirectory : Bool) (mask : Nat) (who : List Char) (old : Nat) (step : Step) :
    Nat :=
  let wanted := match step.letters with
    | ['u'] => copied old 'u'
    | ['g'] => copied old 'g'
    | ['o'] => copied old 'o'
    | letters => permissions isDirectory old letters
  let range := if who.isEmpty then 0xfff - mask else classes who
  let bits := wanted &&& range
  match step.sign with
  | '+' => old ||| bits
  | '-' => old - (old &&& bits)
  | _ =>
    let kept := if isDirectory then range &&& 0x3ff else range
    (old - (old &&& kept)) ||| bits

/-- Octal digits as a number. -/
def ofOctal? (text : String) : Option Nat :=
  if text ≠ "" && text.toList.all (fun c => '0' ≤ c && c ≤ '7') then
    some (text.toList.foldl (fun n c => 8 * n + (c.toNat - '0'.toNat)) 0)
  else none

/-- The permissions after a change that is written down, given those that new files do not get. -/
def change? (isDirectory : Bool) (mask : Nat) (text : String) (old : Nat) : Option Nat :=
  match ofOctal? text with
  | some n =>
    if 0xfff < n then none
    else if isDirectory && text.length < 5 then some (n ||| (old &&& 0xc00))
    else some n
  | none =>
    match (listed clause).run text.toList with
    | some [] => none
    | some clauses => some (clauses.foldl
        (fun old (who, steps) => steps.foldl (Step.apply isDirectory mask who) old) old)
    | none => none

/-- Three permissions as letters, the last one given for the case that a special bit is set. -/
def threeLetters (bits : Nat) (isSpecial : Bool) (special : Char) : List Char :=
  [if bits &&& 4 ≠ 0 then 'r' else '-', if bits &&& 2 ≠ 0 then 'w' else '-',
    if isSpecial then (if bits &&& 1 ≠ 0 then special else special.toUpper)
    else if bits &&& 1 ≠ 0 then 'x' else '-']

/-- Permissions as letters. -/
def text (mode : Nat) : String :=
  String.ofList (threeLetters (mode / 64 % 8) (mode &&& 0x800 ≠ 0) 's' ++
    threeLetters (mode / 8 % 8) (mode &&& 0x400 ≠ 0) 's' ++
    threeLetters (mode % 8) (mode &&& 0x200 ≠ 0) 't')

/-- Permissions as octal digits, as many as there must be at least. -/
def octal (digits mode : Nat) : String :=
  let shown := Nat.toDigits 8 mode
  String.ofList (List.replicate (digits - shown.length) '0' ++ shown)

/-- The permissions that some bits leave, as letters for each class. -/
def remaining (mask : Nat) : String :=
  let letters (bits : Nat) : String :=
    String.ofList ((if bits &&& 4 = 0 then ['r'] else []) ++
      (if bits &&& 2 = 0 then ['w'] else []) ++ (if bits &&& 1 = 0 then ['x'] else []))
  "u=" ++ letters (mask / 64 % 8) ++ ",g=" ++ letters (mask / 8 % 8) ++ ",o=" ++ letters (mask % 8)

end Compositor.Script.Mode
