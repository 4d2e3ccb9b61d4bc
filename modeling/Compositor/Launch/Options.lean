import Compositor.Config.Loading

set_option autoImplicit false

/-!
# The command line

Two options may be given, each at most once and with a value; help and version can be asked for.
Arguments are read in their order. An option whose value is an argument of its own is settled when
the next option comes or the arguments end, so an argument that no option knows is reported first.

## Main definitions

* `LaunchOptions` — what the command line says.
* `Interruption` — why reading the command line ends without options.
* `LaunchOptions.ofArguments` — reads the command line.
* `LaunchOptions.loadConfig` — the configuration with the options applied.
-/

namespace Compositor

/-- What the command line says. -/
structure LaunchOptions where
  /-- The startup command. -/
  startup : Option String
  /-- The path of the configuration file. -/
  config : Option String
deriving DecidableEq

/-- Why reading the command line ends without options. -/
inductive Interruption where
  /-- There is no such option, and nothing but options may be given. -/
  | unknownArgument
  /-- A value is missing, or is empty where it may not be. -/
  | invalidValue
  /-- An option is given twice. -/
  | argumentConflict
  /-- A value is given to an option that has none. -/
  | tooManyValues
  /-- Help is asked for. -/
  | help
  /-- The version is asked for. -/
  | version
deriving DecidableEq

/-- The options of the command line. -/
inductive LaunchOption where
  /-- The startup command. -/
  | startup
  /-- The configuration file. -/
  | config
  /-- Help. -/
  | help
  /-- The version. -/
  | version
deriving DecidableEq

namespace LaunchOption

/-- The option with a given letter. -/
def ofLetter? : Char → Option LaunchOption
  | 's' => some startup
  | 'c' => some config
  | 'h' => some help
  | 'V' => some version
  | _ => none

/-- The option with a given name. -/
def ofName? (name : String) : Option LaunchOption :=
  if name = "startup" then some startup
  else if name = "config" then some config
  else if name = "help" then some help
  else if name = "version" then some version
  else none

/-- What an option interrupts the reading with, if it has no value. -/
def interruption? : LaunchOption → Option Interruption
  | help => some .help
  | version => some .version
  | _ => none

end LaunchOption

namespace LaunchOptions

/-- The options of an empty command line. -/
def empty : LaunchOptions := ⟨none, none⟩

/-- The value of an option that has been given. -/
def value? (options : LaunchOptions) : LaunchOption → Option String
  | .startup => options.startup
  | .config => options.config
  | _ => none

/-- Whether an option may have an empty value. -/
def emptyAllowed (option : LaunchOption) : Bool :=
  option == .startup

/-- Gives an option its value. -/
def set (options : LaunchOptions) (option : LaunchOption) (value : String) :
    Except Interruption LaunchOptions :=
  if (options.value? option).isSome then .error .argumentConflict
  else if value = "" && !emptyAllowed option then .error .invalidValue
  else
    match option with
    | .startup => .ok { options with startup := some value }
    | .config => .ok { options with config := some value }
    | _ => .ok options

/-- An option that is not settled yet, with its value if that has come. -/
structure Pending where
  /-- The option. -/
  option : LaunchOption
  /-- Its value. -/
  value : Option String

/-- Settles an option. -/
def settle (options : LaunchOptions) : Option Pending → Except Interruption LaunchOptions
  | none => .ok options
  | some pending =>
    match pending.value with
    | some value => options.set pending.option value
    | none => .error .invalidValue

/-- The forms of an argument. -/
inductive Argument where
  /-- Two hyphens, after which there are no options. -/
  | separator
  /-- An option, with a value that is attached to it. -/
  | option (option : LaunchOption) (attached : Option String)
  /-- A switch to which a value is attached all the same. -/
  | burdened
  /-- An unknown option. -/
  | unknown
  /-- Anything else. -/
  | plain (text : String)

/-- The form of an argument that begins with two hyphens. -/
def longArgument (characters : List Char) : Argument :=
  let name := characters.takeWhile (· != '=')
  let attached := (characters.dropWhile (· != '=')).tail?.map String.ofList
  match LaunchOption.ofName? (String.ofList name) with
  | none => .unknown
  | some option =>
    if option.interruption?.isSome && attached.isSome then .burdened else .option option attached

/-- The form of an argument that begins with one hyphen. -/
def shortArgument (letter : Char) (rest : List Char) : Argument :=
  match LaunchOption.ofLetter? letter with
  | none => .unknown
  | some option =>
    if rest.isEmpty then .option option none
    else
      let attached := if rest.head? = some '=' then rest.tail else rest
      .option option (some (String.ofList attached))

/-- The form of an argument. -/
def argument (text : String) : Argument :=
  match text.toList with
  | ['-', '-'] => .separator
  | '-' :: '-' :: characters => longArgument characters
  | '-' :: letter :: rest => shortArgument letter rest
  | _ => .plain text

/-- Reads arguments, after an option that may still be waiting for its value. -/
def read (options : LaunchOptions) (pending : Option Pending) :
    List String → Except Interruption LaunchOptions
  | [] => options.settle pending
  | text :: rest =>
    match argument text with
    | .separator => if rest.isEmpty then options.settle pending else .error .unknownArgument
    | .unknown => .error .unknownArgument
    | .burdened => .error .tooManyValues
    | .option option attached => do
      let options ← options.settle pending
      match option.interruption? with
      | some interruption => .error interruption
      | none =>
        match attached with
        | some value => (← options.set option value).read none rest
        | none => options.read (some ⟨option, none⟩) rest
    | .plain value =>
      match pending with
      | some ⟨option, none⟩ => options.read (some ⟨option, some value⟩) rest
      | _ => .error .unknownArgument

/-- Reads the arguments of the program, of which the first is its own name. -/
def ofArguments (arguments : List String) : Except Interruption LaunchOptions :=
  empty.read none arguments.tail

/-- The configuration with the options applied. -/
def apply (options : LaunchOptions) (config : Config) : Config :=
  { config with startupCommand := options.startup.or config.startupCommand }

/-- Loads the configuration and applies the options to it. -/
def loadConfig (options : LaunchOptions) (host : Host) : Except Failure Config :=
  let loaded := match options.config with
    | some path => Config.load host path
    | none => Config.loadStandard host
  match loaded with
  | .ok config => .ok (options.apply config)
  | .error cause => .error (.config cause)

end LaunchOptions

end Compositor
