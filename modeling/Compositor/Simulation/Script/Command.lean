set_option autoImplicit false

/-!
# Words and commands of a script

A word is written as parts that stand side by side: text, quoted text, and parts that are replaced
by what they name when the word is used. A part in quotes is not taken apart into several words.
Commands are made up of words, and words may have commands in them again.

## Main definitions

* `Script.Part`, `Script.Word` — the parts of a word, for a type of commands.
* `Script.Rule` — what is done about a variable that has no value.
* `Script.Word.plain?` — the text of a word of which nothing is replaced.
* `Script.Redirection` — where a channel of a command leads.
* `Script.Command` — commands and their connections.
-/

namespace Compositor.Script

/-! ## Words -/

/-- What a rule does. -/
inductive Remedy where
  /-- A word is taken in place of a missing value. -/
  | fallback
  /-- A missing value is set to a word. -/
  | assign
  /-- A missing value is an error with a word as its text. -/
  | refuse
  /-- A word is taken in place of a value that is there. -/
  | replace
deriving DecidableEq

/-- What is done about a variable that has no value. -/
structure Rule where
  /-- What is done. -/
  remedy : Remedy
  /-- Whether an empty value counts as missing. -/
  emptyToo : Bool

/-- How a pattern cuts a value. -/
structure Cut where
  /-- Whether the end is cut off, and not the beginning. -/
  atEnd : Bool
  /-- Whether as much as possible is cut off. -/
  longest : Bool

/-- A part of a word, with commands of a given type. -/
inductive Part (γ : Type) where
  /-- Text as it is written. -/
  | text (content : String)
  /-- Text that stands for itself. -/
  | quoted (content : String)
  /-- The home directory of a user. -/
  | home (user : String)
  /-- The value of a variable. -/
  | value (name : String) (inQuotes : Bool)
  /-- The length of the value of a variable. -/
  | length (name : String) (inQuotes : Bool)
  /-- The value of a variable, with a rule for the case that it has none. -/
  | ruled (name : String) (rule : Rule) (word : List (Part γ)) (inQuotes : Bool)
  /-- The value of a variable, cut by a pattern. -/
  | cut (name : String) (cut : Cut) (pattern : List (Part γ)) (inQuotes : Bool)
  /-- What commands write. -/
  | output (commands : List γ) (inQuotes : Bool)
  /-- The value of an arithmetic expression. -/
  | sum (expression : List (Part γ)) (inQuotes : Bool)
  /-- A part that names nothing. -/
  | meaningless

/-- A word before its parts are replaced. -/
abbrev Word (γ : Type) := List (Part γ)

/-- The text of a word of which nothing is replaced. -/
def Word.plain? {γ : Type} (word : Word γ) : Option String :=
  word.foldl
    (fun text part =>
      match part with
      | .text content | .quoted content => text.map (· ++ content)
      | _ => none)
    (some "")

/-- Whether something in a word is quoted. -/
def Word.isQuoted {γ : Type} (word : Word γ) : Bool :=
  word.any fun | .quoted _ => true | _ => false

/-! ## Commands -/

/-- What a redirection does with its target. -/
inductive Direction where
  /-- A file is read. -/
  | input
  /-- A file is emptied and written, unless files are protected. -/
  | output
  /-- A file is emptied and written. -/
  | overwrite
  /-- A file is written at its end. -/
  | append
  /-- A file is read and written. -/
  | both
  /-- The channel becomes the same as another one. -/
  | duplicate
  /-- The target itself is read. -/
  | document
deriving DecidableEq

/-- A redirection of a channel: 0 is input, 1 output, 2 diagnostics. -/
structure Redirection (γ : Type) where
  /-- The channel. -/
  channel : Nat
  /-- What is done. -/
  direction : Direction
  /-- The file, the channel or the text. -/
  target : List (Part γ)

/-- A command. -/
inductive Command where
  /-- Variables that are set, a name with arguments and redirections, on a line of the script. -/
  | simple (line : Nat) (assignments : List (String × List (Part Command)))
      (words : List (List (Part Command))) (redirections : List (Redirection Command))
  /-- Commands of which each reads what the one before it writes. The status may be inverted. -/
  | pipeline (negated : Bool) (commands : List Command)
  /-- A command, and another if it succeeds. -/
  | andThen (first second : Command)
  /-- A command, and another if it fails. -/
  | orElse (first second : Command)
  /-- A command for which nobody waits. -/
  | background (command : Command)
  /-- Commands in a shell of their own. -/
  | subshell (commands : List Command)
  /-- Commands one after another. -/
  | group (commands : List Command)
  /-- Commands that run if others succeed, and those that run if they fail. -/
  | choose (condition positive negative : List Command)
  /-- Commands that run as long as others succeed, or fail. -/
  | loop (untilSuccess : Bool) (condition body : List Command)
  /-- Commands that run for each of some words, or for each argument of the script. -/
  | each (name : String) (words : Option (List (List (Part Command)))) (body : List Command)
  /-- Commands that run if a word fits a pattern; the first that fits decides. -/
  | select (word : List (Part Command))
      (clauses : List (List (List (Part Command)) × List Command))
  /-- A command that gets a name. -/
  | define (name : String) (body : Command)
  /-- A command with redirections. -/
  | redirected (command : Command) (redirections : List (Redirection Command))

end Compositor.Script
