import Compositor.Simulation.Script.Command
import Compositor.Simulation.Script.Source

set_option autoImplicit false

/-!
# Reading scripts

Commands are read from a text of octets. Words, commands and the commands within words contain each
other. The depth to which they do is bounded by the length of the text: between a reader and itself
there are fewer than sixteen others, and one of them takes a character.

## Main definitions

* `Script.word` — reads a word.
* `Script.command` — reads a command.
* `Script.nextLine` — reads the next line of a script, with all lines that belong to it.
-/

namespace Compositor.Script

open Reader hiding next only symbol span notBefore done
open Source hiding comment

/-! ## Characters -/

/-- Whether a character ends a word. -/
def isMeta (c : Char) : Bool :=
  [' ', '\t', '\n', ';', '&', '|', '<', '>', '(', ')'].contains c

/-- Whether a character begins a part of a word that is more than text. -/
def isQuoting (c : Char) : Bool :=
  ['"', '\x27', '\\', '$', '\x60'].contains c

/-- Whether a character stands for itself in a word. -/
def isPlain (c : Char) : Bool :=
  !isMeta c && !isQuoting c

/-- The characters with a meaning of their own between double quotes. -/
def quoteMarks : List Char := ['$', '\x60', '"', '\\']

/-- The characters with a meaning of their own in a document. -/
def documentMarks : List Char := ['$', '\x60', '\\']

/-- Whether a character may stand in the name of a variable. -/
def isNameCharacter (c : Char) : Bool :=
  c.isAlphanum || c == '_'

/-- Text that stands for itself. -/
def quotedCharacter (c : Char) : Part Command :=
  .quoted (String.singleton c)

/-- The name of a variable. -/
def variableName : Reader String := do
  let first ← only fun c => isNameCharacter c && !c.isDigit
  return String.ofList (first :: (← span isNameCharacter))

/-- A parameter of the shell that has a mark for its name. -/
def markedParameter : Reader String := do
  let c ← only fun c => ['?', '#', '@', '*', '$', '!', '-'].contains c
  return String.singleton c

/-- The name of a variable or parameter after a dollar sign. -/
def shortName : Reader String :=
  variableName <|> markedParameter <|>
    (do return String.singleton (← only fun c => c.isDigit))

/-- The name of a variable or parameter in braces. -/
def bracedName : Reader String :=
  variableName <|> markedParameter <|>
    (do return String.ofList ((← only fun c => c.isDigit) :: (← span Char.isDigit)))

/-- What is known when a script is read. -/
structure Setting where
  /-- How many lines begin in the whole script after its first one. -/
  lines : Nat
  /-- The words that stand for other texts at the beginning of a command. -/
  aliases : List (String × String)

/-- Reads a text of its own to the end. -/
def within {α : Type} (setting : Setting) (reader : Setting → Reader α) (text : List Char) :
    Reader α := fun rest =>
  match (do let value ← reader { setting with lines := setting.lines - lineCount rest }
            done
            return value) text with
  | some (value, _) => some (value, rest)
  | none => none

/-! ## Spaces -/

/-- Spaces within a line. -/
def blanks : Reader Unit := do
  let _ ← many (symbol [' '] <|> symbol ['\t'])

/-- Spaces, comments and the ends of lines. -/
def newlines : Reader Unit := do
  blanks
  let _ ← many (do symbol ['\n'] <|> Source.comment; blanks)

/-- A word that belongs to the language. -/
def reserved (name : String) : Reader Unit := do
  symbol name.toList
  notBefore fun c => !isMeta c
  blanks

/-- The words that belong to the language. -/
def reservedWords : List String :=
  ["!", "case", "do", "done", "elif", "else", "esac", "fi", "for", "if", "in", "then", "until",
    "while", "\x7b", "\x7d"]

/-- Refuses a text that begins with one of some words. -/
def notReserved (names : List String) : Reader Unit := fun text =>
  if names.contains (String.ofList (Source.cut (fun c => !isMeta c) text).1) then none
  else some ((), text)

/-! ## Aliases -/

/-- Puts the text for which a word stands in the place of the word. While that text is read, the
word stands for itself. -/
def expandAlias (aliases : List (String × String)) : Reader Unit := fun text =>
  let (name, rest) := Source.cut isPlain text
  match aliases.findIdx? fun entry => entry.1 == String.ofList name with
  | none => none
  | some index =>
    let value := ((aliases[index]?).map Prod.snd).getD ""
    let mark := expansionEnd (2 * index + if value.endsWith " " || value.endsWith "\t" then 1 else 0)
    if rest.contains mark || rest.head?.any isQuoting then none
    else some ((), marked value.toList ++ mark :: rest)

/-- Expands the word that begins a command. -/
def expandAliases (setting : Setting) : Reader Unit := do
  if setting.aliases.isEmpty then pure ()
  else
    let _ ← many do
      notReserved reservedWords
      expandAlias setting.aliases

/-- Whether the word before here ended a text that stood for a word and that ends with a space. -/
def afterOpenExpansion : Reader Bool := fun text =>
  let front := text.takeWhile fun c => c == ' ' || c == '\t' || isMark c
  some (front.any fun c => expansionEnd 0 ≤ c && c.toNat % 2 == 1, text)

/-! ## Words -/

/-- The text between back quotes. -/
def backQuoted (inQuotes : Bool) : Reader (List Char) := do
  symbol ['\x60']
  let inner ← many
    ((do
      symbol ['\\']
      let c ← next
      return if ['$', '\x60', '\\'].contains c || (inQuotes && c == '"') then [c] else ['\\', c])
      <|> (do return [← only fun c => c != '\x60' && c != '\\']))
  symbol ['\x60']
  return inner.flatten

/-- The operator between the name of a variable in braces and a word. -/
def rule : Reader Rule := do
  let colon ← optional (symbol [':'])
  let remedy ←
    (do symbol ['-']; return Remedy.fallback) <|> (do symbol ['=']; return .assign) <|>
    (do symbol ['?']; return .refuse) <|> (do symbol ['+']; return .replace)
  return ⟨remedy, colon.isSome⟩

/-- The operator between the name of a variable in braces and a pattern. -/
def cut : Reader Cut :=
  (do symbol ['#', '#']; return ⟨false, true⟩) <|> (do symbol ['#']; return ⟨false, false⟩) <|>
  (do symbol ['%', '%']; return ⟨true, true⟩) <|> (do symbol ['%']; return ⟨true, false⟩)

/-- The home directory of a user at the front of a text that may end before some characters. -/
def home (ends : List Char) : Reader (Part Command) := do
  symbol ['~']
  let user ← span fun c => isNameCharacter c || c == '-' || c == '.'
  notBefore fun c => !(isMeta c || c == '/' || ends.contains c)
  return .home (String.ofList user)

/-- The channel that a redirection is about. -/
def channel (standard : Nat) : Option Char → Nat
  | some digit => digit.toNat - '0'.toNat
  | none => standard

/-- What ends a command within a line; true if nobody waits for the command. -/
def separator : Reader Bool := do
  let waits ← (do symbol [';']; return false) <|> (do symbol ['&']; return true)
  notBefore fun c => c == ';' || c == '&'
  return waits

/-- Commands with what ends each of them. -/
def separated (first : Command) (rest : List (Bool × Command)) (last : Option Bool) :
    List Command :=
  let commands := first :: rest.map Prod.snd
  let ends := rest.map Prod.fst ++ [last.getD false]
  (commands.zip ends).map fun (command, unattended) =>
    if unattended then .background command else command

mutual

/-- What a dollar sign begins. -/
def dollar (setting : Setting) : Nat → Bool → Reader (Part Command)
  | 0, _ => failure
  | depth + 1, inQuotes => do
    symbol ['$']
    (do
      symbol ['(', '(']
      let expression ← many (sumParts setting depth)
      symbol [')', ')']
      return .sum expression.flatten inQuotes) <|>
    (do
      symbol ['(']
      notBefore (· == '(')
      let commands ← block setting depth
      symbol [')']
      return .output commands inQuotes) <|>
    (do
      symbol ['\x7b']
      braced setting depth inQuotes) <|>
    (do return .value (← shortName) inQuotes) <|>
    (do
      notBefore fun c => c == '(' || c == '\x7b'
      return if inQuotes then .quoted "$" else .text "$")

/-- What stands between braces after a dollar sign, with the closing brace. -/
def braced (setting : Setting) : Nat → Bool → Reader (Part Command)
  | 0, _ => failure
  | depth + 1, inQuotes =>
    (do
      symbol ['#']
      let name ← bracedName
      symbol ['\x7d']
      return .length name inQuotes) <|>
    (do
      let name ← bracedName
      (do
        symbol ['\x7d']
        return .value name inQuotes) <|>
      (do
        let rule ← rule
        let word ←
          if inQuotes then many (quotedParts setting depth ('\x7d' :: quoteMarks))
          else bracedWord setting depth
        symbol ['\x7d']
        return .ruled name rule word.flatten inQuotes) <|>
      (do
        let cut ← cut
        let pattern ← bracedWord setting depth
        symbol ['\x7d']
        return .cut name cut pattern.flatten inQuotes)) <|>
    (do
      let _ ← span fun c => c != '\x7d' && c != '\n'
      symbol ['\x7d']
      return .meaningless)

/-- The output of commands between back quotes. -/
def backQuote (setting : Setting) : Nat → Bool → Reader (Part Command)
  | 0, _ => failure
  | depth + 1, inQuotes => do
    let text ← backQuoted inQuotes
    return .output (← within setting (block · depth) (marked text)) inQuotes

/-- A part of an arithmetic expression. -/
def sumParts (setting : Setting) : Nat → Reader (Word Command)
  | 0 => failure
  | depth + 1 =>
    (do
      symbol ['(']
      let inner ← many (sumParts setting depth)
      symbol [')']
      return quotedCharacter '(' :: (inner.flatten ++ [quotedCharacter ')'])) <|>
    (do return [← dollar setting depth true]) <|>
    (do return [← backQuote setting depth true]) <|>
    (do
      symbol ['"']
      return []) <|>
    (do
      symbol ['\\']
      let c ← next
      return if c == '\n' then [] else [quotedCharacter c]) <|>
    (do return [.quoted (← spanSome fun c => !isQuoting c && c != '(' && c != ')')])

/-- A part of a text in which only some characters have a meaning of their own. -/
def quotedParts (setting : Setting) : Nat → List Char → Reader (Word Command)
  | 0, _ => failure
  | depth + 1, marks =>
    (do
      symbol ['\\']
      let c ← next
      return if c == '\n' then []
        else if marks.contains c then [quotedCharacter c]
        else [.quoted (String.ofList ['\\', c])]) <|>
    (do return [← dollar setting depth true]) <|>
    (do return [← backQuote setting depth true]) <|>
    (do
      require (marks.contains '\x7d')
      symbol ['"']
      let inner ← many (quotedParts setting depth quoteMarks)
      symbol ['"']
      return inner.flatten) <|>
    (do return [.quoted (← spanSome fun c => !marks.contains c)])

/-- Parts of a word between quotes, or one that has a character with a meaning of its own. -/
def specialParts (setting : Setting) : Nat → Reader (Word Command)
  | 0 => failure
  | depth + 1 =>
    (do
      symbol ['"']
      let inner ← many (quotedParts setting depth quoteMarks)
      symbol ['"']
      return if inner.flatten.isEmpty then [.quoted ""] else inner.flatten) <|>
    (do
      symbol ['\x27']
      let inner ← verbatim
      symbol ['\x27']
      return [.quoted inner]) <|>
    (do
      symbol ['\\']
      let c ← next
      return if c == '\n' then [] else [quotedCharacter c]) <|>
    (do return [← dollar setting depth false]) <|>
    (do return [← backQuote setting depth false])

/-- Parts of a word in braces. -/
def bracedParts (setting : Setting) : Nat → Reader (Word Command)
  | 0 => failure
  | depth + 1 =>
    specialParts setting depth <|>
    (do return [.text (← spanSome fun c => !isQuoting c && c != '\x7d')])

/-- A word in braces. -/
def bracedWord (setting : Setting) : Nat → Reader (List (Word Command))
  | 0 => failure
  | depth + 1 => do
    let first ← optional (home ['\x7d'])
    return [first.toList] ++ (← many (bracedParts setting depth))

/-- Parts of a word. -/
def parts (setting : Setting) : Nat → Reader (Word Command)
  | 0 => failure
  | depth + 1 =>
    specialParts setting depth <|> (do return [.text (← spanSome isPlain)])

/-- Parts of the value that a variable is set to. -/
def valueParts (setting : Setting) : Nat → Reader (Word Command)
  | 0 => failure
  | depth + 1 =>
    (do
      symbol [':']
      let home ← home [':']
      return [.text ":", home]) <|>
    (do
      symbol [':']
      return [.text ":"]) <|>
    specialParts setting depth <|> (do return [.text (← spanSome fun c => isPlain c && c != ':')])

/-- A word. -/
def word (setting : Setting) : Nat → Reader (Word Command)
  | 0 => failure
  | depth + 1 => do
    let first ← (do return [← home []]) <|> parts setting depth
    return first ++ (← many (parts setting depth)).flatten

/-- A variable that is set. -/
def assignment (setting : Setting) : Nat → Reader (String × Word Command)
  | 0 => failure
  | depth + 1 => do
    let name ← variableName
    symbol ['=']
    let first ← (do return [← home [':']]) <|> pure []
    let value := first ++ (← many (valueParts setting depth)).flatten
    blanks
    return (name, value)

/-- A redirection. -/
def redirection (setting : Setting) : Nat → Reader (Redirection Command)
  | 0 => failure
  | depth + 1 => do
    let digit ← optional (only Char.isDigit)
    (do
      symbol ['<', '<']
      let tabs ← optional (symbol ['-'])
      blanks
      let delimiter ← word setting depth
      let text ← takeDocument tabs.isSome delimiter.isQuoted (delimiter.plain?.getD "").toList
      blanks
      let target ←
        if delimiter.isQuoted then pure [.quoted (String.ofList text)]
        else within setting (fun setting => many (quotedParts setting depth documentMarks)) text >>=
          (pure ·.flatten)
      return ⟨channel 0 digit, .document, target⟩) <|>
    (do
      let (direction, standard) ←
        (do symbol ['>', '&']; return (Direction.duplicate, 1)) <|>
        (do symbol ['>', '>']; return (.append, 1)) <|>
        (do symbol ['>', '|']; return (.overwrite, 1)) <|>
        (do symbol ['>']; return (.output, 1)) <|>
        (do symbol ['<', '&']; return (.duplicate, 0)) <|>
        (do symbol ['<', '>']; return (.both, 0)) <|>
        (do symbol ['<']; return (.input, 0))
      blanks
      let target ← word setting depth
      blanks
      return ⟨channel standard digit, direction, target⟩)

/-- A word of a command, with the spaces after it. -/
def argument (setting : Setting) : Nat → Reader (Word Command)
  | 0 => failure
  | depth + 1 => do
    notBefore (· == '#')
    let found ← word setting depth
    let opened ← afterOpenExpansion
    blanks
    if opened then expandAliases setting
    return found

/-- A simple command. -/
def simple (setting : Setting) : Nat → Reader Command
  | 0 => failure
  | depth + 1 => do
    notReserved reservedWords
    let line := 1 + setting.lines - lineCount (← get)
    let leading ← many
      ((do return Sum.inl (← redirection setting depth)) <|>
        (do return Sum.inr (← assignment setting depth)))
    if !leading.isEmpty then expandAliases setting
    let others ← many
      ((do return Sum.inl (← redirection setting depth)) <|>
        (do return Sum.inr (← argument setting depth)))
    require (!leading.isEmpty || !others.isEmpty)
    return .simple line (leading.filterMap Sum.getRight?) (others.filterMap Sum.getRight?)
      (leading.filterMap Sum.getLeft? ++ others.filterMap Sum.getLeft?)

/-- What follows the condition of a choice. -/
def branches (setting : Setting) : Nat → Reader (List Command × List Command)
  | 0 => failure
  | depth + 1 => do
    reserved "then"
    let positive ← commands setting depth
    let negative ←
      (do
        reserved "elif"
        let condition ← commands setting depth
        let (inner, other) ← branches setting depth
        return [Command.choose condition inner other]) <|>
      (do
        reserved "else"
        let negative ← commands setting depth
        reserved "fi"
        return negative) <|>
      (do
        reserved "fi"
        return [])
    return (positive, negative)

/-- The body of a loop. -/
def loopBody (setting : Setting) : Nat → Reader (List Command)
  | 0 => failure
  | depth + 1 => do
    reserved "do"
    let body ← commands setting depth
    reserved "done"
    return body

/-- Patterns with the commands that run for them. -/
def clause (setting : Setting) : Nat → Reader (List (Word Command) × List Command)
  | 0 => failure
  | depth + 1 => do
    notReserved ["esac"]
    let _ ← optional (do symbol ['(']; blanks)
    let first ← argument setting depth
    let rest ← many (do symbol ['|']; blanks; argument setting depth)
    symbol [')']
    let body ← block setting depth
    let _ ← optional (do symbol [';', ';']; newlines)
    return (first :: rest, body)

/-- A command that has other commands in it. -/
def compound (setting : Setting) : Nat → Reader Command
  | 0 => failure
  | depth + 1 =>
    (do
      symbol ['(']
      let body ← commands setting depth
      symbol [')']
      blanks
      return .subshell body) <|>
    (do
      reserved "\x7b"
      let body ← commands setting depth
      reserved "\x7d"
      return .group body) <|>
    (do
      reserved "if"
      let condition ← commands setting depth
      let (positive, negative) ← branches setting depth
      return .choose condition positive negative) <|>
    (do
      let untilSuccess ←
        (do reserved "while"; return false) <|> (do reserved "until"; return true)
      let condition ← commands setting depth
      return .loop untilSuccess condition (← loopBody setting depth)) <|>
    (do
      reserved "for"
      let name ← variableName
      blanks
      let words ← optional do
        newlines
        reserved "in"
        let words ← many (argument setting depth)
        symbol [';'] <|> symbol ['\n']
        return words
      let _ ← optional (symbol [';'])
      newlines
      return .each name words (← loopBody setting depth)) <|>
    (do
      reserved "case"
      let subject ← argument setting depth
      newlines
      reserved "in"
      newlines
      let clauses ← many (clause setting depth)
      reserved "esac"
      return .select subject clauses)

/-- A command with a name of its own. -/
def definition (setting : Setting) : Nat → Reader Command
  | 0 => failure
  | depth + 1 => do
    let name ← variableName
    blanks
    symbol ['(']
    blanks
    symbol [')']
    newlines
    return .define name (← command setting depth)

/-- A command. -/
def command (setting : Setting) : Nat → Reader Command
  | 0 => failure
  | depth + 1 => do
    expandAliases setting
    (do
      let found ← compound setting depth
      let redirections ← many (redirection setting depth)
      return if redirections.isEmpty then found else .redirected found redirections) <|>
    definition setting depth <|> simple setting depth

/-- Commands of which each reads what the one before it writes. -/
def pipeline (setting : Setting) : Nat → Reader Command
  | 0 => failure
  | depth + 1 => do
    let inverted ← optional (reserved "!")
    let first ← command setting depth
    let rest ← many (do symbol ['|']; notBefore (· == '|'); newlines; command setting depth)
    return if inverted.isNone && rest.isEmpty then first
      else .pipeline inverted.isSome (first :: rest)

/-- Pipelines of which each depends on how the one before it ends. -/
def chain (setting : Setting) : Nat → Reader Command
  | 0 => failure
  | depth + 1 => do
    let first ← pipeline setting depth
    let rest ← many
      ((do symbol ['&', '&']; newlines; return (true, ← pipeline setting depth)) <|>
        (do symbol ['|', '|']; newlines; return (false, ← pipeline setting depth)))
    return rest.foldl
      (fun done (success, next) => if success then .andThen done next else .orElse done next) first

/-- Any number of commands on any number of lines. -/
def block (setting : Setting) : Nat → Reader (List Command)
  | 0 => failure
  | depth + 1 => do
    newlines
    match ← optional (chain setting depth) with
    | none => return []
    | some first =>
      let between : Reader Bool :=
        (do let waits ← separator; newlines; return waits) <|>
        (do blanks; let _ ← optional Source.comment; symbol ['\n']; newlines; return false)
      let rest ← many (do return (← between, ← chain setting depth))
      let last ← optional between
      return separated first rest last

/-- At least one command, on any number of lines. -/
def commands (setting : Setting) : Nat → Reader (List Command)
  | 0 => failure
  | depth + 1 => do
    let found ← block setting depth
    require (!found.isEmpty)
    return found

end

/-! ## Scripts -/

/-- A line with its commands. -/
def line (setting : Setting) (depth : Nat) : Reader (List Command) := do
  newlines
  let first ← chain setting depth
  let rest ← many (do
    let waits ← separator
    blanks
    return (waits, ← chain setting depth))
  let last ← optional (do let waits ← separator; blanks; return waits)
  let _ ← optional Source.comment
  symbol ['\n'] <|> done
  return separated first rest last

/-- The next line of a script. -/
inductive NextLine where
  /-- There are no more commands. -/
  | finished
  /-- Commands, and what follows them. -/
  | commands (commands : List Command) (rest : List Char)
  /-- The line with a number cannot be read. -/
  | unreadable (number : Nat)

/-- Reads the next line of a marked script, with all lines that belong to it. -/
def nextLine (setting : Setting) (text : List Char) : NextLine :=
  match (do newlines; done : Reader Unit) text with
  | some _ => .finished
  | none =>
    match line setting (16 * (text.length + 1) + 100000) text with
    | some (commands, rest) => .commands commands rest
    | none => .unreadable (1 + setting.lines - lineCount text)

end Compositor.Script
