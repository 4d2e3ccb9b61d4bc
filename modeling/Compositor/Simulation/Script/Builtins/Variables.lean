import Compositor.Simulation.Script.Builtins.Basic

set_option autoImplicit false

/-!
# Commands that change variables and options

## Main definitions

* `Script.Builtins.share`, `Script.Builtins.protect`, `Script.Builtins.own` — kinds of variables.
* `Script.Builtins.takeOptions`, `Script.Builtins.setWords` — options and arguments of the script.
* `Script.Builtins.getopts` — takes options from arguments one after another.
* `Script.Builtins.aliases` — words that stand for other texts.
-/

namespace Compositor.Script.Builtins

/-! ## Variables -/

/-- Writes some variables with their values. -/
def list (word : String) (names : List String) : Shell Unit := do
  let session ← get
  let shown := (names.mergeSort fun a b => decide (a ≤ b)).map fun name =>
    match session.assignments.lookup name with
    | some value => word ++ name ++ "=" ++ inSingleQuotes value ++ "\n"
    | none => word ++ name ++ "\n"
  Shell.put (String.join shown)
  Shell.finish 0

/-- Refuses a text that is no name of a variable. -/
def requireName (name : String) : Shell Unit := do
  if !Session.isVariable name then Shell.fail (name ++ ": bad variable name")

/-- Does something with variables, which are given values first if they are to have any. -/
def eachVariable (arguments : List String) (action : String → Session → Session) : Shell Unit := do
  for argument in arguments do
    let name := ((assignmentOf? argument).map Prod.fst).getD argument
    requireName name
    match assignmentOf? argument with
    | some (name, value) => Shell.assign name value
    | none => pure ()
    modify (action name)
  Shell.finish 0

/-- Lets programs see variables. -/
def share : Utility := fun arguments => do
  let (options, names) ← optionsOf ['p'] arguments
  if names.isEmpty || options.contains 'p' then list "export " (← get).shared
  else eachVariable names fun name session => session.share name

/-- Keeps variables from being changed. -/
def protect : Utility := fun arguments => do
  let (options, names) ← optionsOf ['p'] arguments
  if names.isEmpty || options.contains 'p' then list "readonly " (← get).fixed
  else eachVariable names fun name session =>
    { session with fixed := name :: session.fixed.filter (· ≠ name) }

/-- Takes variables or functions away. -/
def unset : Utility := fun arguments => do
  let (options, names) ← optionsOf ['f', 'v'] arguments
  for name in names do
    if options.getLast? == some 'f' then
      modify fun session =>
        { session with functions := session.functions.filter fun entry => entry.1 ≠ name }
    else
      requireName name
      if (← get).fixed.contains name then Shell.fail (name ++ ": is read only")
      else modify fun session => session.unset name
  Shell.finish 0

/-- Makes variables, or the options, belong to the function that runs. -/
def own : Utility := fun arguments => do
  match (← get).frames with
  | [] => Shell.fail "not in a function"
  | _ =>
    for argument in arguments do
      let session ← get
      let frame := session.frames.headD []
      let name := ((assignmentOf? argument).map Prod.fst).getD argument
      let before := if name = "-" then some (String.ofList session.options)
        else session.assignments.lookup name
      if name ≠ "-" then requireName name
      if (frame.lookup name).isNone then
        set { session with frames := ((name, before) :: frame) :: session.frames.tail }
      match assignmentOf? argument with
      | some (name, value) => Shell.assign name value
      | none => pure ()
    Shell.finish 0

/-- Drops arguments of the script. -/
def shift : Utility := fun arguments => do
  let n ← match arguments with
    | [] => pure 1
    | argument :: _ => numberOf argument
  let session ← get
  if session.arguments.length < n then Shell.fail "can\x27t shift that many"
  set { session with
    arguments := session.arguments.drop n
    optionIndex := 1
    optionOffset := none }
  Shell.finish 0

/-! ## Options -/

/-- The options by their long names, in the order in which they are listed. Some have no letter. -/
def optionNames : List (String × Option Char) :=
  [("errexit", some 'e'), ("noglob", some 'f'), ("ignoreeof", some 'I'), ("interactive", some 'i'),
    ("monitor", some 'm'), ("noexec", some 'n'), ("stdin", some 's'), ("xtrace", some 'x'),
    ("verbose", some 'v'), ("vi", some 'V'), ("emacs", some 'E'), ("noclobber", some 'C'),
    ("allexport", some 'a'), ("notify", some 'b'), ("nounset", some 'u'),
    ("privileged", some 'p'), ("nolog", none), ("debug", none)]

/-- The letters of options, in the order in which they are shown. -/
def optionLetters : List Char :=
  (optionNames.filterMap Prod.snd).reverse

/-- Turns an option on or off. -/
def setOption (on : Bool) (option : Char) : Shell Unit := do
  if !optionLetters.contains option then
    Shell.fail ("Illegal option -" ++ String.singleton option)
  modify fun session =>
    { session with
      options := optionLetters.filter fun other =>
        if other = option then on else session.options.contains other }

/-- Turns an option with a long name on or off. -/
def setNamedOption (on : Bool) (name : String) : Shell Unit := do
  match optionNames.lookup name with
  | some (some option) => setOption on option
  | some none => pure ()
  | none => Shell.fail ("Illegal option " ++ (if on then "-o " else "+o ") ++ name)

/-- Shows all options, as a table or as commands. -/
def listOptions (asTable : Bool) : Shell Unit := do
  let session ← get
  let shown := optionNames.map fun (name, letter) =>
    let on := letter.any session.options.contains
    if asTable then
      name ++ String.ofList (List.replicate (16 - name.length) ' ') ++
        (if on then "on\n" else "off\n")
    else "set " ++ (if on then "-o " else "+o ") ++ name ++ "\n"
  Shell.put ((if asTable then "Current option settings\n" else "") ++ String.join shown)

/-- What is left of arguments after options. -/
structure Taken where
  /-- The other arguments. -/
  rest : List String
  /-- Whether the other arguments count even if there are none. -/
  replaces : Bool
  /-- Whether the first of them is a command. -/
  isCommand : Bool

/-- Turns on and off the options of which letters are given. The letter `o` takes a long name from
the arguments. The result also tells whether there is a letter for a command. -/
def setLetters (atStart on : Bool) : List Char → List String → Shell (List String × Bool)
  | [], arguments => return (arguments, false)
  | 'o' :: letters, arguments => do
    match arguments with
    | [] =>
      listOptions on
      setLetters atStart on letters []
    | name :: rest =>
      setNamedOption on name
      setLetters atStart on letters rest
  | c :: letters, arguments => do
    if atStart && c == 'c' then
      let (rest, _) ← setLetters atStart on letters arguments
      return (rest, true)
    else
      if !(atStart && c == 'l') then setOption on c
      setLetters atStart on letters arguments

/-- Turns options on and off, up to the first argument that is none, as far as the fuel goes. Those
with which a shell is started are somewhat different. -/
def takeOptions (atStart : Bool) : Nat → List String → Shell Taken
  | 0, arguments => return ⟨arguments, false, false⟩
  | _, [] => return ⟨[], false, false⟩
  | fuel + 1, argument :: rest => do
    match argument.toList with
    | ['-'] =>
      if !atStart then
        setOption false 'x'
        setOption false 'v'
      return ⟨rest, !rest.isEmpty, false⟩
    | ['-', '-'] => return ⟨rest, true, false⟩
    | '-' :: letters => next fuel true letters rest
    | '+' :: letters => next fuel false letters rest
    | _ => return ⟨argument :: rest, true, false⟩
where
  /-- Goes on with the letters of an argument. -/
  next (fuel : Nat) (on : Bool) (letters : List Char) (rest : List String) : Shell Taken := do
    let (left, isCommand) ← setLetters atStart on letters rest
    let taken ← takeOptions atStart fuel left
    return { taken with isCommand := taken.isCommand || isCommand }

/-- Sets options and the arguments of the script. -/
def setWords : Utility := fun arguments => do
  if arguments.isEmpty then list "" ((← get).assignments.map Prod.fst)
  else
    let taken ← takeOptions false arguments.length arguments
    if taken.replaces then
      modify fun session =>
        { session with arguments := taken.rest, optionIndex := 1, optionOffset := none }
    Shell.finish 0

/-! ## Options of scripts -/

/-- What is left of an argument from which options have been taken, if it has more of them. -/
def pendingOptions (session : Session) (arguments : List String) : Option (List Char) :=
  if session.optionIndex ≤ 1 then none
  else
    match session.optionOffset, arguments[session.optionIndex - 2]? with
    | some offset, some argument =>
      let left := argument.toList.drop offset
      if left.isEmpty then none else some left
    | _, _ => none

/-- Takes the next option from arguments. -/
def getopts : Utility := fun words => do
  match words with
  | specification :: name :: rest =>
    let session ← get
    let arguments := if rest.isEmpty then session.arguments else rest
    let session := if arguments.length + 1 < session.optionIndex then
        { session with optionIndex := 1, optionOffset := none }
      else session
    let conclude (index : Nat) (left : Option (List Char)) (value : String) (status : Nat) :
        Shell Unit := do
      Shell.assign "OPTIND" (toString index)
      Shell.assign name value
      let last := ((arguments[index - 2]?).getD "").length
      modify fun session =>
        { session with
          optionIndex := index
          optionOffset := left.map fun characters => last - characters.length }
      Shell.finish status
    let index := session.optionIndex
    let next := (arguments[index - 1]?).map String.toList
    let start : Option (Nat × List Char) × Nat := match pendingOptions session arguments, next with
      | some left, _ => (some (index, left), index)
      | none, some ['-'] => (none, index)
      | none, some ['-', '-'] => (none, index + 1)
      | none, some ('-' :: characters) => (some (index + 1, characters), index + 1)
      | none, _ => (none, index)
    match start with
    | (none, index) => conclude index none "?" 1
    | (some (_, []), index) => conclude index none "?" 1
    | (some (index, option :: left), _) =>
      let silent := specification.toList.head? == some ':'
      match optionIn option specification.toList with
      | none =>
        if silent then Shell.assign "OPTARG" (String.singleton option)
        else
          modify fun session => session.unset "OPTARG"
          Shell.write 2 ("Illegal option -" ++ String.singleton option ++ "\n")
        conclude index (some left) "?" 0
      | some false =>
        Shell.assign "OPTARG" ""
        conclude index (some left) (String.singleton option) 0
      | some true =>
        match left, arguments[index - 1]? with
        | [], none =>
          if silent then Shell.assign "OPTARG" (String.singleton option)
          else
            modify fun session => session.unset "OPTARG"
            Shell.write 2 ("No arg for -" ++ String.singleton option ++ " option\n")
          conclude index (some []) (if silent then ":" else "?") 0
        | [], some value =>
          Shell.assign "OPTARG" value
          conclude (index + 1) none (String.singleton option) 0
        | _, _ =>
          Shell.assign "OPTARG" (String.ofList left)
          conclude index none (String.singleton option) 0
  | _ => Shell.fail "Usage: getopts optstring var [arg]"
where
  /-- Whether an option takes a value, if it is among those that are specified. -/
  optionIn (option : Char) : List Char → Option Bool
    | [] => none
    | c :: ':' :: rest => if c = option then some true else optionIn option rest
    | c :: rest => if c = option then some false else optionIn option rest

/-! ## Aliases -/

/-- Shows words that stand for other texts, or sets them. -/
def aliases : Utility := fun arguments => do
  let shown (entry : String × String) : String := entry.1 ++ "=" ++ inSingleQuotes entry.2
  Shell.finish 0
  if arguments.isEmpty then Shell.put (sortedLines ((← get).aliases.map shown))
  for argument in arguments do
    match assignmentOf? argument with
    | some (name, value) =>
      if name = "" then Shell.put ""
      else modify fun session =>
        { session with
          aliases := (name, value) :: session.aliases.filter fun entry => entry.1 ≠ name }
    | none =>
      match (← get).aliases.lookup argument with
      | some value => Shell.put (shown (argument, value) ++ "\n")
      | none =>
        Shell.write 2 ("alias: " ++ argument ++ " not found\n")
        Shell.finish 1

/-- Takes aliases away. -/
def unalias : Utility := fun arguments => do
  let (options, names) ← optionsOf ['a'] arguments
  Shell.finish 0
  if options.contains 'a' then modify fun session => { session with aliases := [] }
  for name in names do
    if ((← get).aliases.lookup name).isNone then
      Shell.write 2 ("unalias: " ++ name ++ " not found\n")
      Shell.finish 1
    modify fun session =>
      { session with aliases := session.aliases.filter fun entry => entry.1 ≠ name }

end Compositor.Script.Builtins
