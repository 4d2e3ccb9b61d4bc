import Compositor.Simulation.Script.Builtins.Basic

set_option autoImplicit false

/-!
# Options of programs

Programs take options from their arguments: single letters after a dash, of which several may share
an argument, and long names after two dashes, which may be shortened. Some options take a value. All
other arguments are operands; some programs take no options after the first of them.

## Main definitions

* `Script.Programs.Grammar` — the options that a program knows.
* `Script.Programs.Options` — the options that are given, and the operands.
* `Script.Programs.Grammar.take` — sorts arguments into options and operands.
* `Script.Programs.quit` — ends a program with a diagnostic.
-/

namespace Compositor.Script.Programs

/-! ## Diagnostics -/

/-- Writes a diagnostic of a program. -/
def report (program message : String) : Shell Unit :=
  Shell.write 2 (program ++ ": " ++ message ++ "\n")

/-- Ends a program with a diagnostic. -/
def quit {α : Type} (program : String) (status : Nat) (message : String) : Shell α := do
  report program message
  Shell.finish status
  throw .leave

/-- Ends a program. -/
def leave {α : Type} (status : Nat) : Shell α := do
  Shell.finish status
  throw .leave

/-! ## Options -/

/-- Whether an option takes a value. -/
inductive Arity where
  /-- It takes none. -/
  | none
  /-- It takes one, in its own argument or the next one. -/
  | required
  /-- It may take one in its own argument. -/
  | optional
deriving DecidableEq

/-- The options that a program knows. -/
structure Grammar where
  /-- The name of the program. -/
  program : String
  /-- The letters of options. A colon after a letter means that it takes a value, two colons that it
  may take one. -/
  letters : String
  /-- The long names of options, with colons like letters, and the letters for which they stand, or
  other short names. -/
  names : List (String × String)
  /-- Whether the first operand ends the options. -/
  isOrdered : Bool
  /-- The status after a mistake. -/
  failure : Nat
  /-- Whether the use is told after a mistake by a line of this form. -/
  hint : String

/-- The options that are given, and the operands. -/
structure Options where
  /-- The options with their values, in their order; those without one have an empty value. -/
  given : List (String × String)
  /-- The operands. -/
  operands : List String

namespace Options

/-- Adds an option in front. -/
def add (name value : String) (options : Options) : Options :=
  { options with given := (name, value) :: options.given }

/-- Adds an operand in front. -/
def push (operand : String) (options : Options) : Options :=
  { options with operands := operand :: options.operands }

/-- Whether an option is given. -/
def has (options : Options) (name : String) : Bool :=
  options.given.any fun entry => entry.1 == name

/-- The last value of an option. -/
def value? (options : Options) (name : String) : Option String :=
  options.given.reverse.lookup name

/-- All values of an option. -/
def values (options : Options) (name : String) : List String :=
  (options.given.filter fun entry => entry.1 == name).map Prod.snd

/-- The last of some options that is given. -/
def last? (options : Options) (names : List String) : Option String :=
  ((options.given.filter fun entry => names.contains entry.1).getLast?).map Prod.fst

end Options

namespace Grammar

/-- A grammar of options that may stand anywhere. -/
def standard (program letters : String) (names : List (String × String)) : Grammar :=
  ⟨program, letters, names, false, 1,
    "Try \x27" ++ program ++ " --help\x27 for more information.\n"⟩

/-- A grammar of options that stand before all operands. -/
def ordered (program letters : String) (names : List (String × String)) : Grammar :=
  { standard program letters names with isOrdered := true }

/-- A grammar with another status after a mistake. -/
def failingWith (grammar : Grammar) (status : Nat) : Grammar :=
  { grammar with failure := status }

/-- Whether a letter is known, and takes a value. -/
def letterArity? (c : Char) : List Char → Option Arity
  | [] => none
  | d :: ':' :: ':' :: rest => if c = d then some .optional else letterArity? c rest
  | d :: ':' :: rest => if c = d then some .required else letterArity? c rest
  | d :: rest => if c = d then some .none else letterArity? c rest

/-- A long name without its colons, and whether it takes a value. -/
def nameArity (name : String) : String × Arity :=
  if name.endsWith "::" then (String.ofList (name.toList.dropLast.dropLast), .optional)
  else if name.endsWith ":" then (String.ofList name.toList.dropLast, .required)
  else (name, .none)

/-- The long names that begin in some way, with their short names. A whole name is the only one. -/
def candidates (grammar : Grammar) (start : String) : List (String × Arity × String) :=
  let all := grammar.names.map fun (name, short) =>
    let (plain, arity) := nameArity name
    (plain, arity, short)
  match all.find? fun entry => entry.1 == start with
  | some entry => [entry]
  | none => all.filter fun entry => entry.1.startsWith start

/-- What is wrong with arguments, or the options that they give. -/
abbrev Sorted := Except String Options

/-- What is wrong with a long name that fits several options. -/
def ambiguity (start : String) (found : List (String × Arity × String)) : String :=
  "option \x27--" ++ start ++ "\x27 is ambiguous; possibilities:" ++
    String.join (found.map fun entry => " \x27--" ++ entry.1 ++ "\x27")

mutual

/-- Sorts arguments, as far as the fuel goes. -/
def sortUpTo (grammar : Grammar) : Nat → List String → Sorted
  | 0, arguments => .ok ⟨[], arguments⟩
  | _, [] => .ok ⟨[], []⟩
  | fuel + 1, argument :: rest =>
    match argument.toList with
    | ['-', '-'] => .ok ⟨[], rest⟩
    | '-' :: '-' :: name => grammar.sortLong fuel name rest
    | '-' :: c :: letters => grammar.sortLetters fuel (c :: letters) rest
    | _ =>
      if grammar.isOrdered then .ok ⟨[], argument :: rest⟩
      else (grammar.sortUpTo fuel rest).map (Options.push argument)

/-- Sorts a long option and the arguments after it. -/
def sortLong (grammar : Grammar) : Nat → List Char → List String → Sorted
  | 0, _, _ => .ok ⟨[], []⟩
  | fuel + 1, characters, rest =>
    let start := String.ofList (characters.takeWhile (· != '='))
    let value? := match characters.drop start.length with
      | [] => none
      | _ :: value => some (String.ofList value)
    match grammar.candidates start with
    | [] => .error ("unrecognized option \x27--" ++ start ++ "\x27")
    | [(name, arity, short)] =>
      match arity, value?, rest with
      | .none, some _, _ => .error ("option \x27--" ++ name ++ "\x27 doesn\x27t allow an argument")
      | .required, none, [] => .error ("option \x27--" ++ name ++ "\x27 requires an argument")
      | .required, none, value :: rest => (grammar.sortUpTo fuel rest).map (Options.add short value)
      | _, value?, rest => (grammar.sortUpTo fuel rest).map (Options.add short (value?.getD ""))
    | found =>
      if (found.map fun entry => entry.2.2).eraseDups.length = 1 then
        (grammar.sortUpTo fuel rest).map
          (Options.add ((found.map fun entry => entry.2.2).headD "") (value?.getD ""))
      else .error (ambiguity start found)

/-- Sorts the letters of an argument and the arguments after it. -/
def sortLetters (grammar : Grammar) : Nat → List Char → List String → Sorted
  | 0, _, _ => .ok ⟨[], []⟩
  | fuel + 1, [], rest => grammar.sortUpTo fuel rest
  | fuel + 1, c :: letters, rest =>
    let name := String.singleton c
    match letterArity? c grammar.letters.toList with
    | none => .error ("invalid option -- \x27" ++ name ++ "\x27")
    | some .none => (grammar.sortLetters fuel letters rest).map (Options.add name "")
    | some .optional =>
      (grammar.sortUpTo fuel rest).map (Options.add name (String.ofList letters))
    | some .required =>
      if !letters.isEmpty then
        (grammar.sortUpTo fuel rest).map (Options.add name (String.ofList letters))
      else
        match rest with
        | value :: rest => (grammar.sortUpTo fuel rest).map (Options.add name value)
        | [] => .error ("option requires an argument -- \x27" ++ name ++ "\x27")

end

/-- Sorts arguments into options and operands. -/
def sort (grammar : Grammar) (arguments : List String) : Sorted :=
  let letters := arguments.foldl (fun n argument => n + argument.length + 2) 2
  grammar.sortUpTo (2 * letters) arguments

/-- Sorts arguments into options and operands. A mistake ends the program. -/
def take (grammar : Grammar) (arguments : List String) : Shell Options := do
  match grammar.sort arguments with
  | .ok options => return options
  | .error message =>
    report grammar.program message
    Shell.write 2 grammar.hint
    leave grammar.failure

/-- Ends a program because of a mistake, and tells the use. -/
def misuse {α : Type} (grammar : Grammar) (message : String) : Shell α := do
  report grammar.program message
  Shell.write 2 grammar.hint
  leave grammar.failure

/-- Ends a program that lacks an operand. -/
def missingOperand {α : Type} (grammar : Grammar) (last? : Option String) : Shell α :=
  grammar.misuse ("missing operand" ++
    match last? with
    | some operand => " after \x27" ++ operand ++ "\x27"
    | none => "")

/-- Ends a program that has an operand too many. -/
def extraOperand {α : Type} (grammar : Grammar) (operand : String) : Shell α :=
  grammar.misuse ("extra operand \x27" ++ operand ++ "\x27")

end Grammar

/-! ## Numbers -/

/-- A number with an optional letter for a multiple of it. -/
def multiple? (text : String) : Option Nat :=
  let digits := text.toList.takeWhile Char.isDigit
  let scale : Option Nat := match String.ofList (text.toList.drop digits.length) with
    | "" | "c" => some 1
    | "w" => some 2
    | "b" => some 512
    | "kB" => some 1000
    | "k" | "K" | "KiB" => some 1024
    | "MB" => some 1000000
    | "m" | "M" | "MiB" => some 1048576
    | "GB" => some 1000000000
    | "g" | "G" | "GiB" => some 1073741824
    | _ => none
  if digits.isEmpty then none else scale.map (ofDigits 10 digits * ·)

end Compositor.Script.Programs
