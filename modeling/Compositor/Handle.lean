import Compositor.Text.Structural

set_option autoImplicit false

/-!
# Handles and signals

A *handle* is the identity of an object that the toolkit owns: an output, an input device, a
surface. It is compared and handed back, and nothing else is ever done with it. A *signal* is one
category of event that such an object can emit.

## Main definitions

* `Handle` — the identity of a toolkit object, ordered by its value.
* `Signal` — the categories of events, with `Signal.name` and `Signal.constructorName`.
-/

namespace Compositor

/-- The identity of an object owned by the toolkit. -/
structure Handle where
  /-- The identity value. -/
  raw : UInt64
deriving DecidableEq, Inhabited

namespace Handle

/-- Handles are ordered by value. -/
instance : Ord Handle := ⟨compareOn Handle.raw⟩

instance : Std.TransOrd Handle := inferInstanceAs (Std.TransCmp (compareOn Handle.raw))

instance : Std.LawfulEqOrd Handle where
  eq_of_compare {a b} h := by
    cases a
    cases b
    congr
    exact Std.LawfulEqOrd.eq_of_compare h

/-- The value as a hexadecimal numeral. -/
def text (handle : Handle) : String :=
  Numeral.hex handle.raw.toNat

/-- The structural text of a handle. -/
def describe (handle : Handle) : String :=
  Structural.application "NativeHandle" [handle.text]

end Handle

/-- One category of event that an object can emit. -/
inductive Signal where
  /-- The object is about to be freed. -/
  | destroy
  /-- The backend found an output. -/
  | newOutput
  /-- The backend found an input device. -/
  | newInput
  /-- An output wants a new frame. -/
  | frame
  /-- The backend asks for a new output state. -/
  | requestState
  /-- A client created a toplevel. -/
  | newToplevel
  /-- A client created a popup. -/
  | newPopup
  /-- A surface became visible. -/
  | map
  /-- A surface stopped being visible. -/
  | unmap
  /-- A client committed surface state. -/
  | commit
  /-- A client asks to be moved interactively. -/
  | requestMove
  /-- A client asks to be resized interactively. -/
  | requestResize
  /-- The pointer moved by a relative amount. -/
  | motion
  /-- The pointer moved to an absolute place. -/
  | motionAbsolute
  /-- A pointer button changed. -/
  | button
  /-- A scroll axis moved. -/
  | axis
  /-- A group of pointer events is complete. -/
  | pointerFrame
  /-- A key changed. -/
  | key
  /-- The modifier state changed. -/
  | modifiers
  /-- A client wants its own cursor image. -/
  | requestSetCursor
deriving DecidableEq, Inhabited

namespace Signal

/-- The constructor's own name, as diagnostics show it. -/
def constructorName : Signal → String
  | destroy => "Destroy"
  | newOutput => "NewOutput"
  | newInput => "NewInput"
  | frame => "Frame"
  | requestState => "RequestState"
  | newToplevel => "NewToplevel"
  | newPopup => "NewPopup"
  | map => "Map"
  | unmap => "Unmap"
  | commit => "Commit"
  | requestMove => "RequestMove"
  | requestResize => "RequestResize"
  | motion => "Motion"
  | motionAbsolute => "MotionAbsolute"
  | button => "Button"
  | axis => "Axis"
  | pointerFrame => "PointerFrame"
  | key => "Key"
  | modifiers => "Modifiers"
  | requestSetCursor => "RequestSetCursor"

/-- The signal's name in lowercase words joined by hyphens. -/
def name : Signal → String
  | destroy => "destroy"
  | newOutput => "new-output"
  | newInput => "new-input"
  | frame => "frame"
  | requestState => "request-state"
  | newToplevel => "new-toplevel"
  | newPopup => "new-popup"
  | map => "map"
  | unmap => "unmap"
  | commit => "commit"
  | requestMove => "request-move"
  | requestResize => "request-resize"
  | motion => "motion"
  | motionAbsolute => "motion-absolute"
  | button => "button"
  | axis => "axis"
  | pointerFrame => "pointer-frame"
  | key => "key"
  | modifiers => "modifiers"
  | requestSetCursor => "request-set-cursor"

/-- Every signal, in the order of declaration. -/
def all : List Signal :=
  [destroy, newOutput, newInput, frame, requestState, newToplevel, newPopup, map, unmap, commit,
    requestMove, requestResize, motion, motionAbsolute, button, axis, pointerFrame, key, modifiers,
    requestSetCursor]

end Signal

end Compositor
