import Compositor.Simulation.Script.Arithmetic

set_option autoImplicit false

/-!
# Conditions

A condition is given by words: a text that is not empty, a question about one or two words, and
conditions that are connected.

## Main definitions

* `Script.Condition.unary`, `Script.Condition.binary` — questions.
* `Script.Condition.Role` — what a word is for the words that follow it.
* `Script.Condition.holds` — whether a condition holds.
-/

namespace Compositor.Script.Condition

/-- The operators of questions about one word. -/
def unaryOperators : List String :=
  ["-b", "-c", "-d", "-e", "-f", "-g", "-h", "-k", "-n", "-p", "-r", "-s", "-t", "-u", "-w", "-x",
    "-z", "-L", "-S", "-O", "-G"]

/-- The operators of questions about two words. -/
def binaryOperators : List String :=
  ["=", "!=", "<", ">", "-eq", "-ne", "-gt", "-ge", "-lt", "-le", "-nt", "-ot", "-ef"]

/-- Whether a word is an operator of a question about two words. -/
def isBinary (word : String) : Bool :=
  binaryOperators.contains word

/-- An answer, or what is wrong with the words. -/
abbrev Answer := Except String

/-- The number that a word stands for. -/
def number (word : String) : Answer Int :=
  let reader : Reader Int := do
    let _ ← Reader.span isSpace
    let sign ← optional (Reader.only fun c => c == '-' || c == '+')
    let first ← Reader.only Char.isDigit
    let n := ofDigits 10 (first :: (← Reader.span Char.isDigit))
    let _ ← Reader.span isSpace
    let signed : Int := if sign == some '-' then -n else n
    Reader.require ((nearest signed).toInt == signed)
    return signed
  match reader.run word.toList with
  | some n => .ok n
  | none => .error ("Illegal number: " ++ word)

/-- The answer to a question about a path. -/
def aboutPath (session : Session) (operator path : String) : Bool :=
  let found := (session.inode? path).map Prod.snd
  let node := found.map Inode.node
  match operator with
  | "-e" | "-r" | "-w" | "-O" | "-G" => node.isSome
  | "-f" => match node with
    | some (.file _) => true
    | _ => false
  | "-d" => node.any Node.isDirectory
  | "-h" | "-L" => match session.nodeNamed? path with
    | some (.link _) => true
    | _ => false
  | "-p" => match node with
    | some .pipe => true
    | _ => false
  | "-c" => match node with
    | some (.device _) => true
    | _ => false
  | "-x" => match found with
    | some ⟨.directory, _, _⟩ => true
    | some ⟨_, mode, _⟩ => mode &&& 0x49 ≠ 0
    | none => false
  | "-s" => match node with
    | some (.file content) => content.size ≠ 0
    | some .directory => true
    | _ => false
  | _ => false

/-- The answer to a question about one word. -/
def unary (session : Session) (operator word : String) : Answer Bool :=
  match operator with
  | "-n" => .ok (word ≠ "")
  | "-z" => .ok (word = "")
  | "-t" => (number word).map fun _ => false
  | _ => .ok (aboutPath session operator word)

/-- The answer to a question about two words. -/
def binary (session : Session) (left operator right : String) : Answer Bool := do
  let newer (first second : String) : Bool :=
    match session.inode? first, session.inode? second with
    | some (_, a), some (_, b) => decide (b.time < a.time)
    | _, _ => false
  match operator with
  | "=" => return left == right
  | "!=" => return left != right
  | "<" => return decide (left < right)
  | ">" => return decide (right < left)
  | "-eq" => return (← number left) == (← number right)
  | "-ne" => return (← number left) != (← number right)
  | "-gt" =>
    let a ← number left
    return decide ((← number right) < a)
  | "-ge" =>
    let a ← number left
    return decide ((← number right) ≤ a)
  | "-lt" => return decide ((← number left) < (← number right))
  | "-le" => return decide ((← number left) ≤ (← number right))
  | "-nt" => return newer left right
  | "-ot" => return newer right left
  | _ =>
    match session.inode? left, session.inode? right with
    | some (a, _), some (b, _) => return a == b
    | _, _ => return false

/-- What a word is for the words that follow it. -/
inductive Role where
  /-- There is no word. -/
  | missing
  /-- A word that is no operator. -/
  | operand
  /-- An operator of a question about one word. -/
  | unary
  /-- An operator of a question about two words. -/
  | binary
  /-- A negation. -/
  | not
  /-- A connection of conditions that must both hold. -/
  | and
  /-- A connection of conditions of which one must hold. -/
  | or
  /-- An opening parenthesis. -/
  | opening
  /-- A closing parenthesis. -/
  | closing
deriving DecidableEq

/-- What the first of some words is. An operator with nothing to ask about is none. -/
def role : List String → Role
  | [] => .missing
  | word :: following =>
    if unaryOperators.contains word then
      match following with
      | [] => .operand
      | [_] => .unary
      | next :: _ => if isBinary next then .operand else .unary
    else if isBinary word then .binary
    else
      match word with
      | "!" => .not
      | "-a" => .and
      | "-o" => .or
      | "(" => if following.isEmpty then .operand else .opening
      | ")" => .closing
      | _ => .operand

mutual

/-- Conditions of which one must hold. What follows the answer begins with the last word that was
used. -/
def disjunction (session : Session) : Nat → Role → List String → Answer (Bool × List String)
  | 0, _, words => .ok (false, words)
  | fuel + 1, first, words => do
    let (answer, words) ← conjunction session fuel first words
    if role words.tail = .or then
      let rest := words.drop 2
      let (other, words) ← disjunction session fuel (role rest) rest
      return (answer || other, words)
    else return (answer, words)

/-- Conditions of which all must hold. -/
def conjunction (session : Session) : Nat → Role → List String → Answer (Bool × List String)
  | 0, _, words => .ok (false, words)
  | fuel + 1, first, words => do
    let (answer, words) ← negation session fuel first words
    if role words.tail = .and then
      let rest := words.drop 2
      let (other, words) ← conjunction session fuel (role rest) rest
      return (answer && other, words)
    else return (answer, words)

/-- A condition, or one that must not hold. -/
def negation (session : Session) : Nat → Role → List String → Answer (Bool × List String)
  | 0, _, words => .ok (false, words)
  | fuel + 1, first, words => do
    if first = .not then
      let next := role words.tail
      let (answer, words) ← negation session fuel next
        (if next = .missing then words else words.tail)
      return (!answer, words)
    else primary session fuel first words

/-- A question, a word that must not be empty, or a condition in parentheses. -/
def primary (session : Session) : Nat → Role → List String → Answer (Bool × List String)
  | 0, _, words => .ok (false, words)
  | fuel + 1, first, words => do
    match first, words with
    | .missing, _ => return (false, words)
    | _, [] => return (false, [])
    | .opening, _ :: rest =>
      if role rest = .closing then return (false, rest)
      else
        let (answer, words) ← disjunction session fuel (role rest) rest
        if role words.tail = .closing then return (answer, words.tail)
        else throw "closing paren expected"
    | .unary, operator :: rest =>
      match rest with
      | [] => throw (operator ++ ": argument expected")
      | word :: _ => return (← unary session operator word, rest)
    | _, left :: rest =>
      match rest with
      | operator :: others =>
        if role rest = .binary then
          match others with
          | [] => throw (operator ++ ": argument expected")
          | right :: _ => return (← binary session left operator right, others)
        else return (left ≠ "", words)
      | [] => return (left ≠ "", words)

end

/-- Whether connected conditions hold that take up all words, whatever the first of them is. -/
def connected (session : Session) (first : Role) (words : List String) : Answer Bool := do
  match ← disjunction session (4 * (words.length + 2)) first words with
  | (_, "" :: _ :: _) => throw "unexpected operator"
  | (_, word :: _ :: _) => throw (word ++ ": unexpected operator")
  | (answer, _) => return answer

/-- Whether a condition holds, or does not, as far as the fuel goes. With three words the one in the
middle decides, and with three or four a parenthesis or a negation at the front; a second negation
there is idle. -/
def holdsUpTo (session : Session) (negated : Bool) : Nat → List String → Answer Bool
  | 0, _ => .ok false
  | _, [] => .ok false
  | fuel + 1, words =>
    let inner := words.drop 1
    let whole (first : Role) : Answer Bool :=
      (connected session first words).map fun answer => answer != negated
    if words.length = 3 && isBinary (words[1]?.getD "") then whole .operand
    else if words.length = 3 || words.length = 4 then
      if words.head? == some "(" && words.getLast? == some ")" then
        holdsUpTo session negated fuel inner.dropLast
      else if words.head? == some "!" then holdsUpTo session true fuel inner
      else whole (role words)
    else whole (role words)

/-- Whether a condition holds. -/
def holds (session : Session) (words : List String) : Answer Bool :=
  holdsUpTo session false 4 words

end Compositor.Script.Condition
