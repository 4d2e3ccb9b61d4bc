set_option autoImplicit false

/-!
# Levels and formats of the log

## Main definitions

* `LogLevel` — how severe a message is.
* `LogFormat` — how log lines are written.
-/

namespace Compositor

/-- How severe a message is. -/
inductive LogLevel where
  /-- Every step. -/
  | trace
  /-- What helps to find faults. -/
  | debug
  /-- The course of events. -/
  | info
  /-- What may be wrong. -/
  | warn
  /-- What went wrong. -/
  | error
deriving DecidableEq

namespace LogLevel

/-- The name of a level. -/
def name : LogLevel → String
  | trace => "trace"
  | debug => "debug"
  | info => "info"
  | warn => "warn"
  | error => "error"

/-- The levels, from the least severe one on. -/
def all : List LogLevel := [trace, debug, info, warn, error]

/-- The level with a given name. -/
def ofName? (name : String) : Option LogLevel :=
  all.find? fun level => level.name = name

end LogLevel

/-- How log lines are written. -/
inductive LogFormat where
  /-- Plain lines. -/
  | text
  /-- One object a line. -/
  | json
deriving DecidableEq

namespace LogFormat

/-- The name of a format. -/
def name : LogFormat → String
  | text => "text"
  | json => "json"

/-- The formats. -/
def all : List LogFormat := [text, json]

/-- The format with a given name. -/
def ofName? (name : String) : Option LogFormat :=
  all.find? fun format => format.name = name

end LogFormat

end Compositor
