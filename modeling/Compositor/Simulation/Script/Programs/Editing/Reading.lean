import Compositor.Simulation.Script.Escapes
import Compositor.Simulation.Script.Programs.Editing.Basic

set_option autoImplicit false

/-!
# Reading editing commands

## Main definitions

* `Script.Edit.control` — the characters that escapes stand for.
* `Script.Edit.Draft` — an instruction whose jumps lead to labels.
* `Script.Edit.read` — reads a script.
-/

namespace Compositor.Script.Edit

/-- What is wrong with a script, and how much of it is left there, if that is known. -/
structure Mistake where
  /-- What is wrong. -/
  message : String
  /-- The number of characters that are left. -/
  left : Option Nat

/-- What takes a value from the front of a script. -/
abbrev Taking (α : Type) := StateT (List Char) (Except Mistake) α

/-- Refuses a script. -/
def refuse {α : Type} (message : String) : Taking α := do
  throw ⟨message, some (← get).length⟩

/-- The next character, if there is one. -/
def take? : Taking (Option Char) := do
  match ← get with
  | [] => return none
  | c :: rest =>
    set rest
    return some c

/-- The characters up to the first that does not satisfy a condition. -/
def takeWhile (condition : Char → Bool) : Taking (List Char) := do
  let text ← get
  set (text.dropWhile condition)
  return text.takeWhile condition

/-- Whether a character is a blank other than the end of a line. -/
def isBlank (c : Char) : Bool :=
  c != '\n' && isSpace c

/-- A decimal number, if there is one. -/
def number? : Taking (Option Nat) := do
  let digits ← takeWhile Char.isDigit
  return if digits.isEmpty then none else some (ofDigits 10 digits)

/-! ## Escapes -/

/-- The value of a digit in bases up to sixteen. -/
def digitValue (c : Char) : Nat :=
  if c.isDigit then c.toNat - 48 else c.toLower.toNat - 87

/-- The character that stands at the front of a text after a backslash. -/
def control : List Char → Option (Char × List Char)
  | 'a' :: rest => some ('\x07', rest)
  | 'f' :: rest => some ('\x0c', rest)
  | 'n' :: rest => some ('\n', rest)
  | 'r' :: rest => some ('\r', rest)
  | 't' :: rest => some ('\t', rest)
  | 'v' :: rest => some ('\x0b', rest)
  | 'c' :: c :: rest => some (Char.ofNat (c.toUpper.toNat ^^^ 64), rest)
  | 'd' :: rest => inBase 10 3 Char.isDigit rest
  | 'o' :: rest => inBase 8 3 isOctal rest
  | 'x' :: rest =>
    inBase 16 2 (fun c => c.isDigit || ('a' ≤ c.toLower && c.toLower ≤ 'f')) rest
  | _ => none
where
  /-- The character whose number is given by at most so many digits. -/
  inBase (base most : Nat) (isDigit : Char → Bool) (text : List Char) :
      Option (Char × List Char) :=
    let digits := (text.take most).takeWhile isDigit
    if digits.isEmpty then none
    else
      let n := digits.foldl (fun n c => base * n + digitValue c) 0
      some (Char.ofNat (n % 256), text.drop digits.length)

/-- The way in which expressions are written. -/
def dialect (isExtended hasLines : Bool) : Dialect :=
  ⟨isExtended, true, hasLines, false, control⟩

/-! ## Parts -/

/-- The characters up to a delimiter, as far as the fuel goes. A backslash before the delimiter is
dropped. In a list in brackets a delimiter stands for itself. -/
def delimitedUpTo (delimiter : Char) (isPattern : Bool) : Nat → Bool → List Char →
    Option (List Char × List Char)
  | 0, _, _ => none
  | _, _, [] => none
  | fuel + 1, inBrackets, c :: rest =>
    let go (front : List Char) (inBrackets : Bool) (rest : List Char) :
        Option (List Char × List Char) :=
      (delimitedUpTo delimiter isPattern fuel inBrackets rest).map fun (text, left) =>
        (front ++ text, left)
    if c = delimiter && !inBrackets then some ([], rest)
    else if c = '\n' && isPattern then none
    else if c = '\\' && !inBrackets then
      match rest with
      | [] => none
      | d :: rest =>
        if d = delimiter && !(!isPattern && d = '&') then
          (if isPattern && d = 'n' then go ['\n'] false rest
          else if isPattern && ['+', '?', '|', '(', ')', '\x7b', '\x7d'].contains d then
            go [d] false rest
          else if isPattern && ['.', '*', '[', ']', '^', '$'].contains d then
            go ['\\', d] false rest
          else go [d] false rest)
        else go ['\\', d] false rest
    else if isPattern && c = '[' && !inBrackets then
      let negation := if rest.head? == some '^' then ['^'] else []
      let rest := rest.drop negation.length
      let closing := if rest.head? == some ']' then [']'] else []
      go ('[' :: negation ++ closing) true (rest.drop closing.length)
    else if isPattern && c = ']' && inBrackets then go [c] false rest
    else if isPattern && inBrackets && c = '[' then
      match rest with
      | mark :: others =>
        if [':', '.', '='].contains mark then
          let inner := others.takeWhile (· != ']')
          go (c :: mark :: inner ++ [']']) true (others.drop (inner.length + 1))
        else go [c] true rest
      | [] => none
    else go [c] inBrackets rest

/-- The characters up to a delimiter. A list in brackets that is not closed is none. -/
def delimited? (delimiter : Char) (isPattern : Bool) (text : List Char) :
    Option (List Char × List Char) :=
  delimitedUpTo delimiter isPattern (text.length + 1) false text

/-- The expression that a pattern writes down; an empty pattern is the last one that was used. -/
def expression (isExtended hasLines noCase : Bool) (pattern : List Char) :
    Taking (Option Regular) := do
  if pattern.isEmpty then return none
  match Regular.ofText (dialect isExtended hasLines) (String.ofList pattern) with
  | .ok found => return some (if noCase then found.withoutCase else found)
  | .error cause => refuse cause

/-- An expression between delimiters, with the letters after it. -/
def patternAddress (isExtended : Bool) (delimiter : Char) : Taking Address := do
  match delimited? delimiter true (← get) with
  | none =>
    set ([] : List Char)
    refuse "unterminated address regex"
  | some (pattern, rest) =>
    set rest
    let letters ← takeWhile fun c => c == 'I' || c == 'M'
    return .found (← expression isExtended (letters.contains 'M') (letters.contains 'I') pattern)

/-- An address, if there is one. -/
def address? (isExtended : Bool) : Taking (Option Address) := do
  match ← get with
  | '/' :: rest =>
    set rest
    return some (← patternAddress isExtended '/')
  | '\\' :: delimiter :: rest =>
    set rest
    return some (← patternAddress isExtended delimiter)
  | '$' :: rest =>
    set rest
    return some .last
  | c :: _ =>
    if c.isDigit then
      let n := (← number?).getD 0
      let _ ← takeWhile isBlank
      match ← get with
      | '~' :: rest =>
        set rest
        let _ ← takeWhile isBlank
        return some (.every n ((← number?).getD 0))
      | _ => return some (.line n)
    else return none
  | [] => return none

/-- The end of a range after its comma. -/
def finish (isExtended : Bool) : Taking Finish := do
  let _ ← takeWhile isBlank
  match ← get with
  | '+' :: rest =>
    set rest
    return .later ((← number?).getD 0)
  | '~' :: rest =>
    set rest
    return .multiple ((← number?).getD 0)
  | _ =>
    match ← address? isExtended with
    | some address => return .address address
    | none =>
      let _ ← take?
      refuse "unexpected \x60,\x27"

/-- The lines to which a command is confined. -/
def selector (isExtended : Bool) : Taking Selector := do
  let first ← address? isExtended
  let _ ← takeWhile isBlank
  let last ← match first, ← get with
    | some _, ',' :: rest => do
      set rest
      pure (some (← finish isExtended))
    | _, _ => pure none
  let startsBefore := match first with
    | some (.line 0) => true
    | _ => false
  let endsByPattern := match last with
    | some (.address (.found _)) => true
    | _ => false
  if startsBefore && !endsByPattern then
    let _ ← take?
    refuse "invalid usage of line address 0"
  let _ ← takeWhile isBlank
  match ← get with
  | '!' :: rest =>
    set rest
    let _ ← takeWhile isBlank
    if (← get).head? == some '!' then
      let _ ← take?
      refuse "multiple \x60!\x27s"
    return ⟨first, last, true⟩
  | _ => return ⟨first, last, false⟩

/-! ## Texts -/

/-- The text of a command up to the end of a line, as far as the fuel goes. A backslash at the end
of a line goes on with the next one. -/
def textUpTo : Nat → List Char → List Char × List Char
  | 0, text => ([], text)
  | _, [] => ([], [])
  | _, '\n' :: rest => ([], rest)
  | _, ['\\'] => ([], [])
  | fuel + 1, '\\' :: rest =>
    match control rest with
    | some (c, rest) =>
      let (text, left) := textUpTo fuel rest
      (c :: text, left)
    | none =>
      match rest with
      | c :: rest =>
        let (text, left) := textUpTo fuel rest
        (c :: text, left)
      | [] => ([], [])
  | fuel + 1, c :: rest =>
    let (text, left) := textUpTo fuel rest
    (c :: text, left)

/-- The text of a command that writes a text. -/
def commandText : Taking String := do
  let _ ← takeWhile isBlank
  match ← get with
  | [] => refuse "expected \\ after \x60a\x27, \x60c\x27 or \x60i\x27"
  | ['\\'] => takeNothing
  | '\\' :: rest =>
    let blanks := rest.takeWhile isBlank
    match rest.drop blanks.length with
    | '\n' :: rest => takeText [] rest
    | [] => takeNothing
    | c :: others => if blanks.isEmpty then takeText [c] others else takeText blanks (c :: others)
  | text => takeText [] text
where
  /-- Takes a text without lines. -/
  takeNothing : Taking String := do
    set ([] : List Char)
    return ""
  /-- Takes the text after some characters. -/
  takeText (front text : List Char) : Taking String := do
    let (content, rest) := textUpTo (text.length + 1) text
    set rest
    return String.ofList (front ++ content ++ ['\n'])

/-- Whether a character belongs to labels. -/
def isLabelCharacter (c : Char) : Bool :=
  !isSpace c && c != ';' && c != '\x7d'

/-- A label. -/
def labelText : Taking String := do
  let _ ← takeWhile isBlank
  let text ← takeWhile isLabelCharacter
  return String.ofList text

/-- The name of a file up to the end of the line. -/
def fileName : Taking String := do
  let _ ← takeWhile isBlank
  let text ← takeWhile (· != '\n')
  if text.isEmpty then refuse "missing filename in r/R/w/W commands"
  return String.ofList text

/-- The end of a command. -/
def commandEnd : Taking Unit := do
  let _ ← takeWhile isBlank
  match ← get with
  | [] => pure ()
  | '\n' :: rest | ';' :: rest => set rest
  | '\x7d' :: _ | '#' :: _ => pure ()
  | _ :: rest =>
    set rest
    refuse "extra characters after command"

/-! ## Replacing -/

/-- The pieces of a replacement, as far as the fuel goes. -/
def piecesUpTo : Nat → List Char → List Piece
  | 0, _ => []
  | _, [] => []
  | fuel + 1, '&' :: rest => .group 0 :: piecesUpTo fuel rest
  | fuel + 1, '\\' :: rest =>
    match rest with
    | 'L' :: rest => .change .lower :: piecesUpTo fuel rest
    | 'U' :: rest => .change .upper :: piecesUpTo fuel rest
    | 'l' :: rest => .change .lowerNext :: piecesUpTo fuel rest
    | 'u' :: rest => .change .upperNext :: piecesUpTo fuel rest
    | 'E' :: rest => .change .keep :: piecesUpTo fuel rest
    | c :: others =>
      if c.isDigit then .group (c.toNat - 48) :: piecesUpTo fuel others
      else
        match control rest with
        | some (d, rest) => .text [d] :: piecesUpTo fuel rest
        | none => .text [c] :: piecesUpTo fuel others
    | [] => [.text ['\\']]
  | fuel + 1, c :: rest => .text [c] :: piecesUpTo fuel rest

/-- The letters after a replacement. -/
structure Letters where
  /-- Whether all parts are replaced. -/
  all : Bool
  /-- Whether the line is written. -/
  writes : Bool
  /-- Whether small and capital letters are the same. -/
  noCase : Bool
  /-- Whether the ends of lines count. -/
  hasLines : Bool
  /-- The number of the first part that is replaced. -/
  first : Option Nat
  /-- The file to which the line is written. -/
  file : Option String

/-- Reads the letters after a replacement, as far as the fuel goes. -/
def letters : Nat → Letters → Taking Letters
  | 0, found => return found
  | fuel + 1, found => do
    match ← get with
    | 'g' :: rest =>
      set rest
      if found.all then refuse "multiple \x60g\x27 options to \x60s\x27 command"
      letters fuel { found with all := true }
    | 'p' :: rest =>
      set rest
      if found.writes then refuse "multiple \x60p\x27 options to \x60s\x27 command"
      letters fuel { found with writes := true }
    | 'i' :: rest | 'I' :: rest =>
      set rest
      letters fuel { found with noCase := true }
    | 'm' :: rest | 'M' :: rest =>
      set rest
      letters fuel { found with hasLines := true }
    | 'e' :: rest =>
      set rest
      letters fuel found
    | 'w' :: rest =>
      set rest
      return { found with file := some (← fileName) }
    | c :: rest =>
      if c.isDigit then
        let n := (← number?).getD 0
        if n = 0 then refuse "number option to \x60s\x27 command may not be zero"
        if found.first.isSome then refuse "multiple number options to \x60s\x27 command"
        letters fuel { found with first := some n }
      else if isBlank c || ['\n', ';', '\x7d', '#'].contains c then return found
      else
        set rest
        refuse "unknown option to \x60s\x27"
    | [] => return found

/-- A replacement after its letter. -/
def substitution (isExtended : Bool) : Taking Substitution := do
  let unterminated {α : Type} : Taking α := do
    set ([] : List Char)
    refuse "unterminated \x60s\x27 command"
  match ← get with
  | [] | '\n' :: _ | '\\' :: _ => unterminated
  | delimiter :: rest =>
    match delimited? delimiter true rest with
    | none => unterminated
    | some (pattern, rest) =>
      match delimited? delimiter false rest with
      | none => unterminated
      | some (replacement, rest) =>
        set rest
        let found ← letters 100 ⟨false, false, false, false, none, none⟩
        let whole ← expression isExtended found.hasLines found.noCase pattern
        let pieces := piecesUpTo (replacement.length + 1) replacement
        let greatest := pieces.foldl
          (fun n piece => match piece with
            | .group m => max n m
            | _ => n) 0
        match whole with
        | some inner =>
          if inner.groupCount < greatest then
            refuse ("invalid reference \\" ++ toString greatest ++ " on \x60s\x27 command\x27s RHS")
        | none => pure ()
        return ⟨whole, pieces, found.all, found.first.getD 1, found.writes, found.file⟩

/-- The characters of a list for changing characters. -/
def plainCharacters : List Char → List Char
  | '\\' :: '\\' :: rest => '\\' :: plainCharacters rest
  | '\\' :: c :: rest =>
    match c with
    | 'n' => '\n' :: plainCharacters rest
    | 't' => '\t' :: plainCharacters rest
    | 'r' => '\r' :: plainCharacters rest
    | 'a' => '\x07' :: plainCharacters rest
    | 'f' => '\x0c' :: plainCharacters rest
    | 'v' => '\x0b' :: plainCharacters rest
    | c => '\\' :: c :: plainCharacters rest
  | c :: rest => c :: plainCharacters rest
  | [] => []

/-- The pairs of a change of characters. -/
def translation : Taking (List (Char × Char)) := do
  let unterminated {α : Type} : Taking α := do
    set ([] : List Char)
    refuse "unterminated \x60y\x27 command"
  match ← get with
  | [] => unterminated
  | delimiter :: rest =>
    match delimited? delimiter false rest with
    | none => unterminated
    | some (source, rest) =>
      match delimited? delimiter false rest with
      | none => unterminated
      | some (target, rest) =>
        set rest
        let old := plainCharacters source
        let new := plainCharacters target
        if old.length ≠ new.length then
          refuse "strings for \x60y\x27 command are different lengths"
        return old.zip new

/-! ## Scripts -/

/-- What a command does, while its jumps lead to labels. -/
inductive Draft where
  /-- What is ready. -/
  | ready (action : Action)
  /-- Begins a block. -/
  | opening
  /-- Ends a block. -/
  | closing
  /-- Stands for a label. -/
  | label (name : String)
  /-- Goes to a label, always or if something was replaced or not. -/
  | jump (condition : Option Bool) (name : String)

/-- A command after its lines. -/
def command (isExtended : Bool) (selector : Selector) : Taking Draft := do
  let isConfined := selector.first.isSome
  let plain (action : Action) : Taking Draft := do
    commandEnd
    return .ready action
  let single (action : Taking Draft) : Taking Draft := do
    if selector.last.isSome then refuse "command only uses one address" else action
  match ← take? with
  | none => refuse "missing command"
  | some c =>
    match c with
    | '\x7b' => return .opening
    | '\x7d' =>
      if isConfined then refuse "unexpected \x60,\x27"
      commandEnd
      return .closing
    | ':' =>
      if isConfined then refuse ": doesn\x27t want any addresses"
      let _ ← takeWhile isBlank
      let name ← takeWhile isLabelCharacter
      if name.isEmpty then refuse "\":\" lacks a label"
      let _ ← takeWhile fun c => isBlank c || c == ';'
      return .label (String.ofList name)
    | '=' => plain .number
    | 'a' => return .ready (.append (← commandText))
    | 'i' => return .ready (.insert (← commandText))
    | 'c' => return .ready (.change (← commandText))
    | 'b' => return ← jump none
    | 't' => return ← jump (some true)
    | 'T' => return ← jump (some false)
    | 'd' => plain .delete
    | 'D' => plain .deleteFirst
    | 'e' =>
      let _ ← takeWhile (· != '\n')
      return .ready .nothing
    | 'F' => plain .name
    | 'g' => plain .get
    | 'G' => plain .getMore
    | 'h' => plain .hold
    | 'H' => plain .holdMore
    | 'x' => plain .exchange
    | 'l' =>
      let _ ← takeWhile isBlank
      let width ← number?
      plain (.list width)
    | 'n' => plain .next
    | 'N' => plain .nextMore
    | 'p' => plain .print
    | 'P' => plain .printFirst
    | 'q' => single do
        let _ ← takeWhile isBlank
        let status ← number?
        plain (.quit (status.getD 0) false)
    | 'Q' => single do
        let _ ← takeWhile isBlank
        let status ← number?
        plain (.quit (status.getD 0) true)
    | 'r' => return .ready (.read (← fileName))
    | 'R' => return .ready (.readLine (← fileName))
    | 's' =>
      let found ← substitution isExtended
      plain (.substitute found)
    | 'v' =>
      let _ ← labelText
      plain .nothing
    | 'w' => return .ready (.write (← fileName))
    | 'W' => return .ready (.writeFirst (← fileName))
    | 'y' =>
      let pairs ← translation
      plain (.translate pairs)
    | 'z' => plain .clear
    | '#' =>
      if isConfined then refuse "comments don\x27t accept any addresses"
      let _ ← takeWhile (· != '\n')
      return .ready .nothing
    | '\n' | ';' => refuse "missing command"
    | c => refuse ("unknown command: \x60" ++ String.singleton c ++ "\x27")
where
  /-- A jump to a label. -/
  jump (condition : Option Bool) : Taking Draft := do
    let name ← labelText
    let _ ← takeWhile fun c => isSpace c || c == ';'
    return .jump condition name

/-- The commands of a script, as far as the fuel goes. -/
def drafts (isExtended : Bool) : Nat → Nat → Taking (List (Selector × Draft))
  | 0, _ => return []
  | fuel + 1, depth => do
    let _ ← takeWhile fun c => isSpace c || c == ';'
    if (← get).isEmpty then
      if depth = 0 then return [] else throw ⟨"unmatched \x60\x7b\x27", none⟩
    else
      let lines ← selector isExtended
      let draft ← command isExtended lines
      match draft with
      | .opening => return (lines, draft) :: (← drafts isExtended fuel (depth + 1))
      | .closing =>
        if depth = 0 then refuse "unexpected \x60\x7d\x27"
        return (lines, draft) :: (← drafts isExtended fuel (depth - 1))
      | _ => return (lines, draft) :: (← drafts isExtended fuel depth)

/-- The number of the draft after the block that begins before some drafts, whose first one has a
number. -/
def blockEnd : Nat → Nat → List (Selector × Draft) → Nat
  | n, _, [] => n
  | n, depth, (_, .opening) :: rest => blockEnd (n + 1) (depth + 1) rest
  | n, depth, (_, .closing) :: rest => if depth = 0 then n else blockEnd (n + 1) (depth - 1) rest
  | n, depth, _ :: rest => blockEnd (n + 1) depth rest

/-- The instructions that drafts from a number on stand for. All the drafts are given as well. -/
def instructions (all : List (Selector × Draft)) :
    Nat → List (Selector × Draft) → Except Mistake (List Instruction)
  | _, [] => .ok []
  | n, (lines, draft) :: rest => do
    let action ← match draft with
      | .ready action => pure action
      | .opening => pure (.block (blockEnd (n + 1) 0 rest))
      | .closing | .label _ => pure .nothing
      | .jump condition name =>
        let target ← if name = "" then pure all.length
          else
            match all.findIdx? fun entry => isLabel name entry.2 with
            | some target => pure target
            | none => throw ⟨"can\x27t find label for jump to \x60" ++ name ++ "\x27", none⟩
        match condition with
        | none => pure (Action.branch target)
        | some true => pure (.branchIf target)
        | some false => pure (.branchUnless target)
    return ⟨lines, action⟩ :: (← instructions all (n + 1) rest)
where
  /-- Whether a draft stands for a label. -/
  isLabel (name : String) : Draft → Bool
    | .label other => name == other
    | _ => false

/-- Reads a script. -/
def read (isExtended : Bool) (text : String) : Except Mistake (Array Instruction) := do
  let (all, _) ← (drafts isExtended (text.length + 1) 0).run text.toList
  return (← instructions all 0 all).toArray

end Compositor.Script.Edit
