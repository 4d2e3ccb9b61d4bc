import Compositor.Text.Structural

set_option autoImplicit false

/-!
# Flag sets

Sets of flags are 32-bit words whose bits the toolkit defines. Bits without a name are kept, since
a newer toolkit may know them.

## Main definitions

* `FlagFamily` — window edges, keyboard modifiers and seat capabilities.
* `FlagSet` — a set of flags of one family, with `contains`, `union` and `isEmpty`.
* `Edges`, `Modifiers`, `Capabilities` — the flag sets of the three families.
-/

namespace Compositor

/-- The kinds of flags. -/
inductive FlagFamily where
  /-- The window edges that a resize drags. -/
  | edges
  /-- The keyboard modifiers that are held. -/
  | modifiers
  /-- What a seat can do. -/
  | capabilities
deriving DecidableEq

namespace FlagFamily

/-- The family's name in diagnostics. -/
def title : FlagFamily → String
  | edges => "Edges"
  | modifiers => "Modifiers"
  | capabilities => "SeatCapabilities"

/-- The flags with a name, each with its bit, lowest bit first. -/
def named : FlagFamily → List (String × UInt32)
  | edges => [("TOP", 1), ("BOTTOM", 2), ("LEFT", 4), ("RIGHT", 8)]
  | modifiers =>
    [("SHIFT", 1), ("CAPS", 2), ("CTRL", 4), ("ALT", 8), ("MOD2", 16), ("MOD3", 32), ("LOGO", 64),
      ("MOD5", 128)]
  | capabilities => [("POINTER", 1), ("KEYBOARD", 2), ("TOUCH", 4)]

end FlagFamily

/-- A set of flags of one family, given by its bits. -/
structure FlagSet (family : FlagFamily) where
  /-- One bit for each flag. -/
  bits : UInt32
deriving DecidableEq

namespace FlagSet

variable {family : FlagFamily}

/-- The set without any flag. -/
def none : FlagSet family := ⟨0⟩

/-- Whether every flag of `other` is in the set. -/
def contains (flags other : FlagSet family) : Bool :=
  flags.bits &&& other.bits == other.bits

/-- The flags of either set. -/
def union (flags other : FlagSet family) : FlagSet family :=
  ⟨flags.bits ||| other.bits⟩

/-- Whether the set has no flag. -/
def isEmpty (flags : FlagSet family) : Bool :=
  flags.bits == 0

/-- The names of the flags that have one, then the other bits as one number, then the number zero
if there is nothing else to show. -/
def describe (flags : FlagSet family) : String :=
  let known := family.named.filter fun flag => flags.bits &&& flag.2 == flag.2
  let unknown := family.named.foldl (fun bits flag => bits &&& ~~~flag.2) flags.bits
  let words := known.map Prod.fst ++
    if unknown != 0 || known.isEmpty then [Numeral.hex unknown.toNat] else []
  Structural.application family.title [" | ".intercalate words]

end FlagSet

/-- Window edges. -/
abbrev Edges := FlagSet .edges

/-- Keyboard modifiers. -/
abbrev Modifiers := FlagSet .modifiers

/-- Seat capabilities. -/
abbrev Capabilities := FlagSet .capabilities

namespace Edges

/-- The upper edge. -/
def top : Edges := ⟨1⟩

/-- The lower edge. -/
def bottom : Edges := ⟨2⟩

/-- The left edge. -/
def left : Edges := ⟨4⟩

/-- The right edge. -/
def right : Edges := ⟨8⟩

end Edges

namespace Modifiers

/-- The shift key. -/
def shift : Modifiers := ⟨1⟩

/-- The control key. -/
def ctrl : Modifiers := ⟨4⟩

/-- The alt key. -/
def alt : Modifiers := ⟨8⟩

/-- The logo key. -/
def logo : Modifiers := ⟨64⟩

end Modifiers

namespace Capabilities

/-- The seat has a pointer. -/
def pointer : Capabilities := ⟨1⟩

/-- The seat has a keyboard. -/
def keyboard : Capabilities := ⟨2⟩

end Capabilities

end Compositor
