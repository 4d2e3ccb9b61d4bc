import Compositor.Host.Error

set_option autoImplicit false

/-!
# The host

The machine on which the compositor runs answers what it is asked: it reads files, makes
directories, and starts processes and threads. How it comes to its answers is its own business, so a
host is no more than the answers, and nothing is assumed of them. Every call of the compositor finds
a host of its own, and puts no question twice.

## Main definitions

* `BaseDirectory` — the purposes for which the user has a directory.
* `Environment` — the base directories of the user.
* `Host` — what the machine answers.
-/

namespace Compositor

/-- The purposes for which the user has a base directory. -/
inductive BaseDirectory where
  /-- Configuration. -/
  | config
  /-- Data. -/
  | data
deriving DecidableEq

/-- The name of a base directory in diagnostics. -/
def BaseDirectory.title : BaseDirectory → String
  | config => "Config Base"
  | data => "Data Base"

/-- What the surroundings of the process tell of its user. -/
structure Environment where
  /-- The base directory for a purpose, if it is known. -/
  directory? : BaseDirectory → Option String

/-- What the machine answers. -/
structure Host where
  /-- Where the user keeps things. -/
  environment : Environment
  /-- The text of the file at a path. -/
  readText : String → Except SystemError String
  /-- Whether a directory can be made, with all those above it. It may be there already. -/
  makeDirectories : String → Except SystemError Unit
  /-- Whether the log file of the day can be opened, in a directory and with a name. -/
  openLog : String → String → Except SystemError Unit
  /-- The number of the process when the shell is started with a command and with the name of the
  socket in its environment. -/
  startShell : String → String → Except SystemError Nat
  /-- Whether a thread with a name can be started. -/
  startThread : String → Except SystemError Unit

/-- A machine that has no files and refuses nothing else. -/
def Host.willing : Host where
  environment := ⟨fun _ => none⟩
  readText _ := .error ⟨some 2, .notFound, "No such file or directory"⟩
  makeDirectories _ := .ok ()
  openLog _ _ := .ok ()
  startShell _ _ := .ok 1
  startThread _ := .ok ()

end Compositor
