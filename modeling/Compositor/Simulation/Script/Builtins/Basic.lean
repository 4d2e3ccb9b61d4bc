import Compositor.Simulation.Script.Expansion

set_option autoImplicit false

/-!
# Commands of the shell itself

## Main definitions

* `Script.Utility` — what a command does with its arguments.
* `Script.Builtins.optionsOf` — takes the options from arguments.
* `Script.Builtins.inSingleQuotes` — a text as the shell would read it.
-/

namespace Compositor.Script

/-- What a command does with its arguments. -/
abbrev Utility := List String → Shell Unit

namespace Builtins

/-- The number that an argument stands for. -/
def numberOf (argument : String) : Shell Nat :=
  let n := ofDigits 10 argument.toList
  if argument ≠ "" && argument.toList.all Char.isDigit && n ≤ 2147483647 then pure n
  else Shell.fail ("Illegal number: " ++ argument)

/-- A text in single quotes, as the shell would read it. -/
def inSingleQuotes (text : String) : String :=
  "\x27" ++ text.replace "\x27" "\x27\"\x27\"\x27" ++ "\x27"

/-- An argument of the form of an assignment. -/
def assignmentOf? (argument : String) : Option (String × String) :=
  let name := argument.toList.takeWhile (· != '=')
  match argument.toList.drop name.length with
  | [] => none
  | _ :: value => some (String.ofList name, String.ofList value)

/-- The options in front of arguments, of which only some exist, and the other arguments. -/
def optionsOf (known : List Char) : List String → Shell (List Char × List String)
  | [] => pure ([], [])
  | argument :: rest =>
    match argument.toList with
    | ['-', '-'] => pure ([], rest)
    | '-' :: first :: more => do
      match (first :: more).find? fun c => !known.contains c with
      | some c => Shell.fail ("Illegal option -" ++ String.singleton c)
      | none =>
        let (options, others) ← optionsOf known rest
        return (first :: more ++ options, others)
    | _ => pure ([], argument :: rest)

/-- Has a status and does nothing. -/
def constant (status : Nat) : Utility := fun _ => Shell.finish status

/-- Lines in the order of their texts, with their ends. -/
def sortedLines (lines : List String) : String :=
  String.join ((lines.mergeSort fun a b => decide (a ≤ b)).map (· ++ "\n"))

end Builtins

end Compositor.Script
