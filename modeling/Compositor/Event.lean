import Compositor.Flags
import Compositor.Geometry
import Compositor.Handle
import Compositor.Text.Shortest

set_option autoImplicit false

/-!
# Events

What a signal carries. Which payload belongs to which signal is a promise of the toolkit; a
subscriber looks for the one it expects.

## Main definitions

* `Press`, `DeviceKind`, `AxisSource`, `AxisOrientation`, `AxisEvent` — parts of payloads.
* `Event` — the payloads. Two events are the same (`==`) when their parts are, doubles being
  compared as numbers.
* `Event.describe` — the structural text of an event.
-/

namespace Compositor

/-- The state of a key or button. -/
inductive Press where
  /-- It went up. -/
  | released
  /-- It went down. -/
  | pressed
deriving DecidableEq

/-- The kinds of input devices. -/
inductive DeviceKind where
  /-- Keys. -/
  | keyboard
  /-- A mouse or touchpad. -/
  | pointer
  /-- A touch screen. -/
  | touch
  /-- A stylus. -/
  | tabletTool
  /-- The buttons of a tablet. -/
  | tabletPad
  /-- A lid or mode switch. -/
  | switch
deriving DecidableEq

/-- What a scroll event was made by. -/
inductive AxisSource where
  /-- A wheel. -/
  | wheel
  /-- A finger on a touchpad. -/
  | finger
  /-- A continuous device. -/
  | continuous
  /-- A wheel that was tilted. -/
  | wheelTilt
deriving DecidableEq

/-- The direction of a scroll event. -/
inductive AxisOrientation where
  /-- Up and down. -/
  | vertical
  /-- Left and right. -/
  | horizontal
deriving DecidableEq

/-- A scroll event. -/
structure AxisEvent where
  /-- When it happened, in milliseconds. -/
  time : UInt32
  /-- What made it. -/
  source : AxisSource
  /-- Its direction. -/
  orientation : AxisOrientation
  /-- The distance. -/
  delta : Float
  /-- The distance in wheel steps. -/
  deltaDiscrete : Int32
deriving BEq

/-- The payload of a signal. -/
inductive Event where
  /-- Nothing. -/
  | empty
  /-- An output appeared. -/
  | newOutput (output : Handle)
  /-- The backend wants `state` committed to an output. -/
  | outputRequestState (state : Handle)
  /-- An input device appeared. -/
  | newInput (device : Handle) (kind : DeviceKind)
  /-- A toplevel appeared on a surface. -/
  | newToplevel (toplevel surface : Handle)
  /-- A popup appeared over a parent. -/
  | newPopup (popup : Handle) (parent : Option Handle)
  /-- A surface was committed, for the first time or again. -/
  | commit (initial : Bool)
  /-- A client asks to be moved. -/
  | requestMove (serial : UInt32)
  /-- A client asks to be resized at some edges. -/
  | requestResize (serial : UInt32) (edges : Edges)
  /-- A pointer moved by an offset. -/
  | pointerMotion (device : Handle) (time : UInt32) (offset : Point Float)
  /-- A pointer moved to a place, in units of the whole layout. -/
  | pointerMotionAbsolute (device : Handle) (time : UInt32) (place : Point Float)
  /-- A pointer button changed. -/
  | pointerButton (time button : UInt32) (state : Press)
  /-- A scroll axis moved. -/
  | pointerAxis (axis : AxisEvent)
  /-- A key changed. -/
  | key (time keycode : UInt32) (state : Press)
  /-- A client wants a surface as its cursor image. -/
  | requestSetCursor (client : Handle) (surface : Option Handle) (hotspot : Point Int32)

/-- The constructor's name of a press state. -/
def Press.constructorName : Press → String
  | released => "Released"
  | pressed => "Pressed"

/-- The constructor's name of a device kind. -/
def DeviceKind.constructorName : DeviceKind → String
  | keyboard => "Keyboard"
  | pointer => "Pointer"
  | touch => "Touch"
  | tabletTool => "TabletTool"
  | tabletPad => "TabletPad"
  | switch => "Switch"

/-- The constructor's name of a scroll source. -/
def AxisSource.constructorName : AxisSource → String
  | wheel => "Wheel"
  | finger => "Finger"
  | continuous => "Continuous"
  | wheelTilt => "WheelTilt"

/-- The constructor's name of a scroll direction. -/
def AxisOrientation.constructorName : AxisOrientation → String
  | vertical => "Vertical"
  | horizontal => "Horizontal"

/-- The structural text of a scroll event. -/
def AxisEvent.describe (axis : AxisEvent) : String :=
  Structural.record "AxisEvent"
    [("time_msec", toString axis.time), ("source", axis.source.constructorName),
      ("orientation", axis.orientation.constructorName), ("delta", Double.describe axis.delta),
      ("delta_discrete", toString axis.deltaDiscrete)]

namespace Event

/-- Whether two events have the same constructor and equal parts. -/
def same : Event → Event → Bool
  | empty, empty => true
  | newOutput a, newOutput b => a == b
  | outputRequestState a, outputRequestState b => a == b
  | newInput a j, newInput b k => a == b && j == k
  | newToplevel a s, newToplevel b t => a == b && s == t
  | newPopup a p, newPopup b q => a == b && p == q
  | commit a, commit b => a == b
  | requestMove a, requestMove b => a == b
  | requestResize a e, requestResize b f => a == b && e == f
  | pointerMotion a s p, pointerMotion b t q => a == b && s == t && p.x == q.x && p.y == q.y
  | pointerMotionAbsolute a s p, pointerMotionAbsolute b t q =>
    a == b && s == t && p.x == q.x && p.y == q.y
  | pointerButton s a p, pointerButton t b q => s == t && a == b && p == q
  | pointerAxis a, pointerAxis b => a == b
  | key s a p, key t b q => s == t && a == b && p == q
  | requestSetCursor a s p, requestSetCursor b t q => a == b && s == t && p == q
  | _, _ => false

instance : BEq Event := ⟨same⟩

/-- The structural text of an event. -/
def describe : Event → String
  | empty => "Empty"
  | newOutput output => Structural.record "NewOutput" [("output", output.describe)]
  | outputRequestState state => Structural.record "OutputRequestState" [("state", state.describe)]
  | newInput device kind =>
    Structural.record "NewInput" [("device", device.describe), ("kind", kind.constructorName)]
  | newToplevel toplevel surface =>
    Structural.record "NewToplevel"
      [("toplevel", toplevel.describe), ("surface", surface.describe)]
  | newPopup popup parent =>
    Structural.record "NewPopup"
      [("popup", popup.describe), ("parent", Structural.option Handle.describe parent)]
  | commit initial => Structural.record "Commit" [("initial", Structural.truth initial)]
  | requestMove serial => Structural.record "RequestMove" [("serial", toString serial)]
  | requestResize serial edges =>
    Structural.record "RequestResize" [("serial", toString serial), ("edges", edges.describe)]
  | pointerMotion device time offset =>
    Structural.record "PointerMotion"
      [("device", device.describe), ("time_msec", toString time),
        ("dx", Double.describe offset.x), ("dy", Double.describe offset.y)]
  | pointerMotionAbsolute device time place =>
    Structural.record "PointerMotionAbsolute"
      [("device", device.describe), ("time_msec", toString time),
        ("x", Double.describe place.x), ("y", Double.describe place.y)]
  | pointerButton time button state =>
    Structural.record "PointerButton"
      [("time_msec", toString time), ("button", toString button), ("state", state.constructorName)]
  | pointerAxis axis => Structural.application "PointerAxis" [axis.describe]
  | key time keycode state =>
    Structural.record "Key"
      [("time_msec", toString time), ("keycode", toString keycode),
        ("state", state.constructorName)]
  | requestSetCursor client surface hotspot =>
    Structural.record "RequestSetCursor"
      [("client", client.describe), ("surface", Structural.option Handle.describe surface),
        ("hotspot_x", toString hotspot.x), ("hotspot_y", toString hotspot.y)]

end Event

end Compositor
