import Compositor.Text.Quoted
import Compositor.Text.Structural

set_option autoImplicit false

/-!
# Errors of the machine

The machine may refuse whatever it is asked for, and says why in its own words. The compositor tells
one kind of error apart: that what it asks for is not there.

## Main definitions

* `SystemError` — why the machine refuses something, with its diagnostic `SystemError.message`.
* `SystemError.describe` — the structural text of an error.
-/

namespace Compositor

/-- The kinds of errors of the machine. -/
inductive SystemError.Kind where
  /-- What is asked for is not there. -/
  | notFound
  /-- Any other kind, by its name. -/
  | other (name : String)
deriving DecidableEq

/-- The name of a kind. -/
def SystemError.Kind.name : SystemError.Kind → String
  | notFound => "NotFound"
  | other name => name

/-- Why the machine refuses something. -/
structure SystemError where
  /-- The number by which the system knows the error. Errors that are found before the system is
  asked have none. -/
  number? : Option Nat
  /-- Its kind. -/
  kind : SystemError.Kind
  /-- What it says. -/
  summary : String
deriving DecidableEq

namespace SystemError

/-- A variable has a NUL character. -/
def nulInVariable : SystemError :=
  ⟨none, .other "InvalidInput", "file name contained an unexpected NUL byte"⟩

/-- A command or its environment has a NUL character. -/
def nulInCommand : SystemError :=
  ⟨none, .other "InvalidInput", "nul byte found in provided data"⟩

/-- The diagnostic of an error. -/
def message (error : SystemError) : String :=
  match error.number? with
  | some number => error.summary ++ " (os error " ++ toString number ++ ")"
  | none => error.summary

/-- The structural text of an error. -/
def describe (error : SystemError) : String :=
  let rest := [("kind", error.kind.name), ("message", Quoted.text error.summary)]
  match error.number? with
  | some number => Structural.record "Os" (("code", toString number) :: rest)
  | none => Structural.record "Error" rest

end SystemError

end Compositor
