import Compositor.Simulation.Script.Builtins.Basic
import Compositor.Simulation.Script.Condition
import Compositor.Simulation.Script.Mode

set_option autoImplicit false

/-!
# Commands about what surrounds the shell

## Main definitions

* `Script.logicalPath` — a path without steps upwards.
* `Script.Builtins.cd`, `Script.Builtins.pwd` — the working directory.
* `Script.Builtins.test`, `Script.Builtins.bracket` — conditions.
* `Script.Builtins.umask`, `Script.Builtins.ulimit` — permissions and limits.
-/

namespace Compositor.Script

/-- A path from a directory, in which a step upwards takes the name before it away. Two slashes at
its front stay. -/
def logicalPath (directory path : String) : String :=
  let isAbsolute := path.startsWith "/"
  let twoSlashes (text : String) : Bool := text.startsWith "//" && !text.startsWith "///"
  let start := if isAbsolute then [] else (directory.splitOn "/").filter (· ≠ "")
  let pieces := (path.splitOn "/").foldl
    (fun pieces piece =>
      match piece with
      | "" | "." => pieces
      | ".." => pieces.dropLast
      | name => pieces ++ [name])
    start
  (if twoSlashes (if isAbsolute then path else directory) then "//" else "/") ++
    "/".intercalate pieces

namespace Builtins

/-! ## The working directory -/

/-- Takes a directory as the working directory, with the path by which it is reached. -/
def enter (physical : Bool) (path : String) : Shell Bool := do
  let session ← get
  let wanted := if physical then path else logicalPath session.directory path
  match session.locate wanted with
  | .error _ => return false
  | .ok place =>
    if !session.files.hasDirectory place then return false
    else
      let directory := if physical then Octets.ofText (Place.path place) else wanted
      let moved := { session with here := place, directory := directory }
      set ((((moved.assign "OLDPWD" session.directory).share "OLDPWD").assign "PWD" directory).share
        "PWD")
      return true

/-- The directories in which a path is looked for, with whether the result is shown. -/
def searched (session : Session) (path : String) : List (String × Bool) :=
  let first := (path.splitOn "/").headD ""
  if path.startsWith "/" || first = "." || first = ".." then []
  else
    match session.value? "CDPATH" with
    | none => []
    | some list => (list.splitOn ":").map fun directory =>
        if directory = "" then (path, false)
        else (directory ++ (if directory.endsWith "/" then "" else "/") ++ path, true)

/-- Changes the working directory. -/
def cd : Utility := fun arguments => do
  let (options, operands) ← optionsOf ['L', 'P'] arguments
  let session ← get
  let physical := options.getLast? == some 'P'
  let (target, back) := match operands with
    | [] => (session.value "HOME", false)
    | "-" :: _ => (session.value "OLDPWD", true)
    | path :: _ => (path, false)
  let path := if target = "" then "." else target
  let found := (searched session path).find? fun entry => session.hasDirectory entry.1
  let (path, shown) := found.getD (path, false)
  if ← enter physical path then
    if back || shown then Shell.put ((← get).directory ++ "\n")
    Shell.finish 0
  else Shell.fail ("can\x27t cd to " ++ target)

/-- Writes the path of the working directory. -/
def pwd : Utility := fun arguments => do
  let (options, _) ← optionsOf ['L', 'P'] arguments
  let session ← get
  Shell.put ((if options.getLast? == some 'P' then Octets.ofText (Place.path session.here)
    else session.directory) ++ "\n")
  Shell.finish 0

/-! ## Conditions -/

/-- Tests a condition. -/
def test : Utility := fun arguments => do
  match Condition.holds (← get) arguments with
  | .ok answer => Shell.finish (if answer then 0 else 1)
  | .error message => Shell.fail message

/-- Tests a condition between brackets. -/
def bracket : Utility := fun arguments => do
  if arguments.getLast? = some "]" then test arguments.dropLast else Shell.fail "missing ]"

/-! ## Permissions and limits -/

/-- Shows or sets the permissions that new files do not get. -/
def umask : Utility := fun arguments => do
  let (options, operands) ← optionsOf ['S'] arguments
  let session ← get
  match operands with
  | [] =>
    Shell.put ((if options.contains 'S' then Mode.remaining session.mask
      else Mode.octal 4 session.mask) ++ "\n")
  | argument :: _ =>
    let isNumber := argument.toList.head?.any Char.isDigit
    match if isNumber then Mode.ofOctal? argument
      else (Mode.change? true 0 argument (0x1ff - session.mask)).map fun left =>
        0x1ff - (left &&& 0x1ff) with
    | some mask => set { session with mask := mask &&& 0x1ff }
    | none =>
      Shell.fail ((if isNumber then "Illegal number: " else "Illegal mode: ") ++ argument)
  Shell.finish 0

/-- The limits that are known by their letters. -/
def limits : List (Char × String) :=
  [('c', "0"), ('n', "1048576"), ('s', "8192"), ('l', "8192")]

/-- Shows a limit. None can be changed. -/
def ulimit : Utility := fun arguments => do
  let letters := (arguments.flatMap fun argument =>
    match argument.toList with
    | '-' :: letters => letters
    | _ => []).filter fun c => c != 'S' && c != 'H'
  let values := arguments.filter fun argument => !argument.startsWith "-"
  if values.isEmpty then
    Shell.put ((limits.lookup (letters.getLast?.getD 'f')).getD "unlimited" ++ "\n")
  Shell.finish 0

end Builtins

end Compositor.Script
