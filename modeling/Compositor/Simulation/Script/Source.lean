import Compositor.Text.Reader

set_option autoImplicit false

/-!
# Marked source

Before a script is read, each end of a line that a backslash takes away is replaced by a mark, and
the end of a text that stands for a word is marked too. Scripts are texts of octets, so that marks
are characters of which a script has none. Readers of scripts pass over them.

## Main definitions

* `Script.Source.marked` — a script with its marks.
* `Script.Source.expansionEnd` — the mark at the end of a text that stands for a word.
* `Script.Source.next`, `Script.Source.symbol`, `Script.Source.span` — readers that pass over marks.
* `Script.Source.takeDocument` — takes a document out of the lines that follow.
-/

namespace Compositor.Script.Source

/-! ## Marks -/

/-- The mark for an end of a line that is taken away. -/
def continuation : Char := '\u0100'

/-- The mark at the end of the text that stands for the word with a number. -/
def expansionEnd (index : Nat) : Char :=
  Char.ofNat (0x200 + index % 0x1000)

/-- Whether a character is a mark. -/
def isMark (c : Char) : Bool :=
  0x100 ≤ c.toNat

/-- A script with the ends of lines marked that are taken away. -/
def marked : List Char → List Char
  | '\\' :: '\n' :: rest => continuation :: marked rest
  | '\\' :: c :: rest => '\\' :: c :: marked rest
  | c :: rest => c :: marked rest
  | [] => []

/-- The characters for which a mark stands where nothing is taken away. -/
def restored (text : List Char) : List Char :=
  text.flatMap fun c =>
    if c = continuation then ['\\', '\n'] else if isMark c then [] else [c]

/-- A text without its marks. -/
def bare (text : List Char) : List Char :=
  text.filter fun c => !isMark c

/-- The number of lines that begin in a text after its first one. -/
def lineCount (text : List Char) : Nat :=
  text.countP fun c => c == '\n' || c == continuation

/-! ## Readers -/

/-- Passes over marks. -/
def skipMarks : Reader Unit := fun text =>
  some ((), text.dropWhile isMark)

/-- The next character. -/
def next : Reader Char := do
  skipMarks
  Reader.next

/-- The next character, which must satisfy a condition. -/
def only (condition : Char → Bool) : Reader Char := do
  skipMarks
  Reader.only condition

/-- The given characters. -/
def symbol : List Char → Reader Unit
  | [] => pure ()
  | c :: rest => do
    skipMarks
    Reader.symbol [c]
    symbol rest

/-- The characters before the first that does not satisfy a condition, and what follows them. -/
def cut (condition : Char → Bool) : List Char → List Char × List Char
  | [] => ([], [])
  | c :: rest =>
    if isMark c then cut condition rest
    else if condition c then
      let (found, left) := cut condition rest
      (c :: found, left)
    else ([], c :: rest)

/-- All characters up to the first that does not satisfy a condition. -/
def span (condition : Char → Bool) : Reader (List Char) := fun text =>
  some (cut condition text)

/-- At least one character that satisfies a condition. -/
def spanSome (condition : Char → Bool) : Reader String := do
  let found ← span condition
  Reader.require (!found.isEmpty)
  return String.ofList found

/-- Requires that the next character, if there is one, does not satisfy a condition. -/
def notBefore (condition : Char → Bool) : Reader Unit := do
  skipMarks
  Reader.notBefore condition

/-- The end of the text. -/
def done : Reader Unit := do
  skipMarks
  Reader.done

/-- The text up to a single quote, in which nothing is taken away. -/
def verbatim : Reader String := fun text =>
  let inner := text.takeWhile (· != '\x27')
  some (String.ofList (restored inner), text.drop inner.length)

/-- A comment. A backslash does not take the end of its line away. -/
def comment : Reader Unit := do
  symbol ['#']
  fun text =>
    match text.dropWhile fun c => c != '\n' && c != continuation with
    | [] => some ((), [])
    | _ :: rest => some ((), '\n' :: rest)

/-! ## Documents -/

/-- The part of a text up to the end of its line. Ends of lines in quotes do not count. -/
def wholeLine : Option Char → List Char → List Char × List Char
  | _, [] => ([], [])
  | some quote, c :: rest =>
    if c = '\\' && quote == '"' then
      match rest with
      | d :: rest =>
        let (line, left) := wholeLine (some quote) rest
        (c :: d :: line, left)
      | [] => ([c], [])
    else
      let (line, left) := wholeLine (if c = quote then none else some quote) rest
      (c :: line, left)
  | none, '\\' :: c :: rest =>
    let (line, left) := wholeLine none rest
    ('\\' :: c :: line, left)
  | none, ' ' :: '#' :: rest =>
    let note := rest.takeWhile (· != '\n')
    (' ' :: '#' :: note, rest.drop note.length)
  | none, c :: rest =>
    if c = '\n' then ([], c :: rest)
    else
      let isQuote := c == '"' || c == '\x27'
      let (line, left) := wholeLine (if isQuote && rest.contains c then some c else none) rest
      (c :: line, left)

/-- Splits characters at the ends of lines. -/
def splitLines : List Char → List (List Char)
  | [] => [[]]
  | c :: rest =>
    if c = '\n' then [] :: splitLines rest
    else
      match splitLines rest with
      | [] => [[c]]
      | first :: others => (c :: first) :: others

/-- The lines of a document up to its delimiter, and how many lines it takes. -/
def documentLines (withoutTabs : Bool) (delimiter : List Char) (lines : List (List Char)) :
    List (List Char) × Nat :=
  let shown := lines.map fun line =>
    if withoutTabs then line.dropWhile (· == '\t') else line
  let body := shown.takeWhile fun line => bare line != delimiter
  if body.length = shown.length && body.getLast? == some [] then (body.dropLast, body.length)
  else (body, body.length + 1)

/-- Takes a document out of the lines that follow, up to its delimiter. In a verbatim document
nothing is taken away. -/
def takeDocument (withoutTabs isVerbatim : Bool) (delimiter : List Char) : Reader (List Char) :=
  fun text =>
    match wholeLine none text with
    | (_, []) => some ([], text)
    | (line, _ :: following) =>
      if isVerbatim then
        let lines := splitLines (following.flatMap fun c =>
          if c = continuation then [c, '\n'] else [c])
        let plain := lines.map fun l => l.map fun c => if c = continuation then '\\' else c
        let (body, count) := documentLines withoutTabs delimiter plain
        let rest := ['\n'].intercalate (lines.drop count)
        some (body.flatMap (· ++ ['\n']), line ++ '\n' :: rejoin rest)
      else
        let lines := splitLines following
        let (body, count) := documentLines withoutTabs delimiter lines
        some (body.flatMap (· ++ ['\n']), line ++ '\n' :: ['\n'].intercalate (lines.drop count))
where
  /-- Takes the ends of lines after marks away again. -/
  rejoin : List Char → List Char
    | [] => []
    | c :: '\n' :: rest => if c = continuation then c :: rejoin rest else c :: '\n' :: rejoin rest
    | c :: rest => c :: rejoin rest

end Compositor.Script.Source
