import Compositor.Simulation.Script.Builtins
import Compositor.Simulation.Script.Reading

set_option autoImplicit false

/-!
# What the names of commands stand for

A name stands for a special command of the shell, else for a function, else for another command of
the shell, else for a program.

## Main definitions

* `Script.Meaning` — the kinds of commands.
* `Script.meaning` — what a name stands for.
* `Script.explain` — tells what a name stands for.
* `Script.hash` — shows the programs that have been found.
* `Script.interpreter?` — the command by which a file runs.
-/

namespace Compositor.Script

/-- What a name stands for. -/
inductive Meaning where
  /-- A special command of the shell. -/
  | special
  /-- A function. -/
  | function (body : Command)
  /-- Another command of the shell. -/
  | regular
  /-- A program at a path. -/
  | program (path : String)
  /-- Nothing. -/
  | unknown

/-- The special commands that run others. -/
def specialRunners : List String := ["eval", ".", "exec"]

/-- The other commands of the shell that need to know what names stand for. -/
def regularRunners : List String := ["command", "type", "hash"]

/-- The path of the file that a name stands for, whether or not it can be run. -/
def filePath? (session : Session) (name : String) : Option String :=
  if name.contains '/' then (if (session.node? name).isSome then some name else none)
  else
    let paths := ((session.value "PATH").splitOn ":").map fun directory =>
      if directory = "" then name else directory ++ "/" ++ name
    paths.find? fun path => match session.node? path with
      | some (.file _) => true
      | _ => false

/-- What a name stands for. -/
def meaning (session : Session) (name : String) : Meaning :=
  if (special? name).isSome || specialRunners.contains name then .special
  else
    match session.functions.lookup name with
    | some body => .function body
    | none =>
      if (regular? name).isSome || regularRunners.contains name then .regular
      else
        match (session.program? name).or (filePath? session name) with
        | some path => .program path
        | none => .unknown

/-- Remembers where a program has been found. -/
def remember (name path : String) : Shell Unit :=
  if name.contains '/' then pure ()
  else modify fun session =>
    if (session.remembered.lookup name).isSome then session
    else { session with remembered := session.remembered ++ [(name, path)] }

/-- Tells what a name stands for, shortly or in a sentence. -/
def explain (short : Bool) (name : String) : Shell Unit := do
  let session ← get
  let found : Option String :=
    if reservedWords.contains name then some (if short then name else " is a shell keyword")
    else
      match session.aliases.lookup name with
      | some value => some (if short then "alias " ++ name ++ "=" ++ Builtins.inSingleQuotes value
          else " is an alias for " ++ value)
      | none =>
        match meaning session name with
        | .special => some (if short then name else " is a special shell builtin")
        | .function _ => some (if short then name else " is a shell function")
        | .regular => some (if short then name else " is a shell builtin")
        | .program path =>
          let isTracked := (session.remembered.lookup name).isSome
          some (if short then path
            else " is" ++ (if isTracked then " a tracked alias for " else " ") ++ path)
        | .unknown => none
  match found with
  | some text => Shell.put ((if short then text else name ++ text) ++ "\n")
  | none =>
    if !short then Shell.put (name ++ ": not found\n")
    Shell.finish 127

/-- Shows the programs that have been found, forgets them, or looks for programs. -/
def hash : Utility := fun arguments => do
  let (options, names) ← Builtins.optionsOf ['r', 'v'] arguments
  Shell.finish 0
  if options.contains 'r' then modify fun session => { session with remembered := [] }
  else if names.isEmpty then
    Shell.put (String.join ((← get).remembered.map fun entry => entry.2 ++ "\n"))
  for name in names do
    match meaning (← get) name with
    | .program path => remember name path
    | .unknown =>
      Shell.complain (name ++ ": not found")
      Shell.finish 1
    | _ => pure ()

/-- The command by which a file runs: its first line may name an interpreter, perhaps with an
argument. -/
def interpreter? (content : String) : Option (String × List String) :=
  match (content.toList.take 2, content.toList.drop 2) with
  | (['#', '!'], rest) =>
    let isBlank (c : Char) : Bool := c == ' ' || c == '\t'
    let line := (rest.takeWhile (· != '\n')).dropWhile isBlank
    let argument := (line.dropWhile fun c => !isBlank c).dropWhile isBlank
    let trimmed := (argument.reverse.dropWhile isBlank).reverse
    some (String.ofList (line.takeWhile fun c => !isBlank c),
      if trimmed.isEmpty then [] else [String.ofList trimmed])
  | _ => none

/-- The bytes with which a compiled program begins. -/
def programMark : String := "\x7fELF\x02\x01\x01"

/-- The name of the compiled program with a content. -/
def compiledName? (content : String) : Option String :=
  if content.startsWith programMark then
    some (String.ofList (content.toList.drop programMark.length))
  else none

end Compositor.Script
