import Compositor.Simulation.Script.Matching
import Compositor.Simulation.Script.Programs.Facts

set_option autoImplicit false

/-!
# What files are found

An expression chooses files and says what is done with them. It is evaluated at each file from left
to right, and only as far as its answer is open.

## Main definitions

* `Script.Programs.Find.Amount` — a number that is compared.
* `Script.Programs.Find.Found` — a file that has been reached.
* `Script.Programs.Find.Test` — a question about a file.
* `Script.Programs.Find.Action` — what is done with a file.
* `Script.Programs.Find.Criterion` — an expression.
* `Script.Programs.Find.Test.holds` — the answer to a question.
-/

namespace Compositor.Script.Programs.Find

/-! ## Files -/

/-- A file that has been reached. -/
structure Found where
  /-- The path at which the search began. -/
  start : String
  /-- The number of directories between that path and the file. -/
  depth : Nat
  /-- The file with its path. -/
  entity : Entity

/-- The path of a file. -/
def Found.path (found : Found) : String :=
  found.entity.name

/-- The last name of a file. -/
def Found.name (found : Found) : String :=
  lastName found.path

/-- The path of a file from the path at which the search began. -/
def Found.below (found : Found) : String :=
  let rest := found.path.toList.drop found.start.length
  String.ofList (if rest.head? == some '/' then rest.drop 1 else rest)

/-- The path of the directory of a file. -/
def Found.directory (found : Found) : String :=
  if found.path.contains '/' then
    let above := (found.path.toList.reverse.dropWhile (· != '/')).drop 1
    String.ofList above.reverse
  else "."

/-! ## Numbers -/

/-- A number that is compared: another number must be greater, smaller or the same. -/
structure Amount where
  /-- How the other number must be. -/
  order : Ordering
  /-- The number. -/
  value : Nat

/-- Whether another number is as it must be. -/
def Amount.accepts (amount : Amount) (n : Nat) : Bool :=
  compare n amount.value == amount.order

/-- Whether an age in seconds is as it must be, in units of so many seconds. Parts of a unit do not
count in days, and count as a whole one in minutes. -/
def Amount.acceptsAge (amount : Amount) (unit : Nat) (roundsUp : Bool) (age : Nat) : Bool :=
  if roundsUp then
    match amount.order with
    | .gt => decide (amount.value * unit < age)
    | .lt => decide (age < amount.value * unit)
    | .eq => decide (age ≤ amount.value * unit ∧ amount.value * unit < age + unit)
  else amount.accepts (age / unit)

/-! ## Questions -/

/-- How permissions must agree with a set of them. -/
inductive Agreement where
  /-- They are the same. -/
  | same
  /-- All of them are given. -/
  | all
  /-- Some of them are given. -/
  | some
deriving DecidableEq

/-- A question about a file. -/
inductive Test where
  /-- An answer that is known. -/
  | constant (answer : Bool)
  /-- Whether the last name fits a pattern. -/
  | named (ignoresCase : Bool) (pattern : Pattern)
  /-- Whether the path fits a pattern. -/
  | at_ (ignoresCase : Bool) (pattern : Pattern)
  /-- Whether an expression takes the whole path. -/
  | fits (expression : Regular)
  /-- Whether the path to which a symbolic link leads fits a pattern. -/
  | leadsTo (ignoresCase : Bool) (pattern : Pattern)
  /-- Whether the kind is among those of some letters. A symbolic link may be followed. -/
  | kind (follows : Bool) (letters : List Char)
  /-- Whether the size in units of so many bytes is right. -/
  | size (unit : Nat) (amount : Amount)
  /-- Whether it is an empty file or directory. -/
  | empty
  /-- Whether it was changed after a time in microseconds. -/
  | newer (time : Nat)
  /-- Whether its age in units of so many seconds is right. -/
  | age (unit : Nat) (roundsUp : Bool) (amount : Amount)
  /-- Whether its permissions agree with some bits. -/
  | permits (agreement : Agreement) (bits : Nat)
  /-- Whether its number of names is right. -/
  | links (amount : Amount)
  /-- Whether its number is right. -/
  | number (amount : Amount)
  /-- Whether it belongs to a user with a number that is right. -/
  | owner (amount : Amount)
  /-- Whether it can be used in ways that are given by bits. -/
  | can (bits : Nat)

/-- What a letter stands for in a test of the kind. -/
def letterOf (entity : Entity) : Char :=
  match entity.kindLetter with
  | '-' => 'f'
  | c => c

/-- A file in whose place the file counts to which it leads. -/
def followed (session : Session) (entity : Entity) : Entity :=
  match Entity.ofPath session true (pathOf entity.place) with
  | .ok other => { other with name := entity.name }
  | .error _ => entity

/-- Whether a text fits a pattern. -/
def fitsPattern (ignoresCase : Bool) (pattern : Pattern) (text : String) : Bool :=
  pattern.fits (if ignoresCase then text.toList.map Char.toLower else text.toList)

/-- The answer to a question about a file. -/
def Test.holds (session : Session) (found : Found) : Test → Bool
  | constant answer => answer
  | named ignoresCase pattern =>
    fitsPattern ignoresCase pattern (if found.path = "/" then "/" else found.name)
  | at_ ignoresCase pattern => fitsPattern ignoresCase pattern found.path
  | fits expression =>
    let text := found.path.toList.toArray
    (expression.longest? text (fun _ last => last = text.size) 0).isSome
  | leadsTo ignoresCase pattern =>
    match found.entity.inode.node with
    | .link target => fitsPattern ignoresCase pattern (Octets.ofText target)
    | _ => false
  | kind follows letters =>
    letters.contains (letterOf (if follows then followed session found.entity else found.entity))
  | size unit amount =>
    amount.accepts ((found.entity.size + unit - 1) / unit)
  | empty =>
    match found.entity.inode.node with
    | .file content => content.size = 0
    | .directory => (session.files.namesIn found.entity.place).isEmpty
    | _ => false
  | newer time => decide (time < found.entity.inode.time)
  | age unit roundsUp amount =>
    amount.acceptsAge unit roundsUp ((session.time - found.entity.inode.time) / 1000000)
  | permits agreement bits =>
    let mode := found.entity.inode.mode
    match agreement with
    | .same => mode = bits
    | .all => mode &&& bits = bits
    | .some => bits = 0 || mode &&& bits ≠ 0
  | links amount => amount.accepts (found.entity.linkCount session.files)
  | number amount => amount.accepts found.entity.number
  | owner amount => amount.accepts 0
  | can bits =>
    let entity := followed session found.entity
    bits ≠ 1 || entity.isDirectory || entity.isProgram

/-! ## Expressions -/

/-- What is done with a file. -/
inductive Action where
  /-- Its path is written, with an end. -/
  | print (ending : String)
  /-- Facts are written by a format. -/
  | describe (format : String)
  /-- It is written as in a long list. -/
  | list
  /-- Its path is written to a file, with an end. -/
  | printTo (path ending : String)
  /-- Facts are written to a file by a format. -/
  | describeTo (path format : String)
  /-- It is taken away. -/
  | delete
  /-- A program is run with it, perhaps in its directory, perhaps after a question. -/
  | run (inPlace asks : Bool) (command : List String)
  /-- It is kept for a program that is run with many of them, under a number. -/
  | gather (number : Nat)
  /-- The directory is not entered. -/
  | prune
  /-- The search ends. -/
  | quit

/-- An expression. -/
inductive Criterion where
  /-- A question. -/
  | test (question : Test)
  /-- Something that is done. -/
  | act (action : Action)
  /-- The opposite. -/
  | not (inner : Criterion)
  /-- Both of two expressions. -/
  | and (first second : Criterion)
  /-- One of two expressions. -/
  | or (first second : Criterion)
  /-- Two expressions, of which the second one has the answer. -/
  | both (first second : Criterion)

/-- Whether an expression does something that makes writing the path needless. -/
def Criterion.writes : Criterion → Bool
  | test _ => false
  | act .prune => false
  | act _ => true
  | not inner => inner.writes
  | and first second | or first second | both first second => first.writes || second.writes

/-- The files that an expression writes. -/
def Criterion.files : Criterion → List String
  | act (.printTo path _) | act (.describeTo path _) => [path]
  | test _ | act _ => []
  | not inner => inner.files
  | and first second | or first second | both first second => first.files ++ second.files

/-- How a search goes. -/
structure Plan where
  /-- The paths at which it begins. -/
  starts : List String
  /-- Whether all symbolic links are followed. -/
  follows : Bool
  /-- Whether the symbolic links that are given are followed. -/
  followsGiven : Bool
  /-- The number of directories above the first files that count. -/
  least : Nat
  /-- The number of directories above the last files that are reached. -/
  most : Option Nat
  /-- Whether what is in a directory comes before it. -/
  isDeep : Bool
  /-- The expression. -/
  criterion : Criterion
  /-- The programs that are run with many files, by their numbers. -/
  gathering : List (Nat × List String)

end Compositor.Script.Programs.Find
