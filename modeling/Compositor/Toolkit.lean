import Compositor.Event
import Compositor.Failure
import Compositor.Keysym

set_option autoImplicit false

/-!
# The toolkit

Rendering, the scene graph, keymaps and the wire protocol belong to a toolkit. The compositor puts
queries to it, gives it commands, and makes requests that are answered. All handles that it passes
on are those of live objects.

## Main definitions

* `OutputMode`, `OutputConfiguration`, `SurfaceHit` — what requests and queries are about.
* `Command` — what the toolkit is told to do.
* `Toolkit` — the queries, commands and requests as functions on the toolkit's state.
-/

namespace Compositor

/-- A display mode. -/
structure OutputMode where
  /-- Horizontal resolution. -/
  width : Int32
  /-- Vertical resolution. -/
  height : Int32
  /-- Refresh rate in millihertz. -/
  refresh : Int32
deriving DecidableEq

/-- The first state of an output. -/
structure OutputConfiguration where
  /-- Whether it shows anything. -/
  enabled : Bool
  /-- Its mode, where it has modes. -/
  mode : Option OutputMode
deriving DecidableEq

/-- A surface under a point. -/
structure SurfaceHit where
  /-- The surface. -/
  surface : Handle
  /-- The point, relative to the surface. -/
  place : Point Float

/-- What the toolkit is told to do. -/
inductive Command where
  /-- Let the display's event loop return. -/
  | terminate
  /-- Disconnect all clients. -/
  | destroyClients
  /-- Take the scene down. -/
  | destroyScene
  /-- Prepare an output for rendering. -/
  | initOutputRender (output : Handle)
  /-- Place an output in the layout. -/
  | addOutputToLayout (output : Handle)
  /-- Render and show a frame. -/
  | renderOutputFrame (output : Handle)
  /-- Place a scene node. -/
  | setScenePosition (node : Handle) (position : Point Coordinate)
  /-- Put a scene node on top of all others. -/
  | raiseToTop (node : Handle)
  /-- Show a toplevel as active or not. -/
  | setActivated (toplevel : Handle) (activated : Bool)
  /-- Ask a toplevel to take a size. -/
  | setToplevelSize (toplevel : Handle) (width height : UInt32)
  /-- Send a toplevel or popup its configuration. -/
  | scheduleConfigure (object : Handle)
  /-- Move the cursor by an offset. -/
  | moveCursor (device : Handle) (offset : Point Float)
  /-- Move the cursor to a place, in units of the whole layout. -/
  | warpCursor (device : Handle) (place : Point Float)
  /-- Let a pointer drive the cursor. -/
  | attachPointer (device : Handle)
  /-- Load a cursor theme. -/
  | loadCursorTheme (theme : Option String) (size : UInt32)
  /-- Show a cursor image of the theme. -/
  | setCursorImage (name : String)
  /-- Show a surface as the cursor. -/
  | setCursorSurface (surface : Option Handle) (hotspot : Point Int32)
  /-- Give a keyboard the standard keymap and repeat settings. -/
  | configureKeyboard (device : Handle) (repeatRate repeatDelay : Int32)
  /-- Give a surface the pointer focus. -/
  | pointerEnter (surface : Handle) (place : Point Float)
  /-- Tell the focused client of a pointer motion. -/
  | pointerMotion (time : UInt32) (place : Point Float)
  /-- Tell the focused client of a button. -/
  | pointerButton (time button : UInt32) (state : Press)
  /-- Tell the focused client of a scroll event. -/
  | pointerAxis (axis : AxisEvent)
  /-- Tell the focused client that a group of pointer events is complete. -/
  | pointerFrame
  /-- Take the pointer focus away. -/
  | clearPointerFocus
  /-- Make a keyboard the seat's active one. -/
  | setSeatKeyboard (device : Handle)
  /-- Give a surface the keyboard focus. -/
  | keyboardEnter (surface : Handle)
  /-- Tell the focused client of a key. -/
  | keyboardKey (time keycode : UInt32) (state : Press)
  /-- Tell the focused client of the modifiers. -/
  | keyboardModifiers (device : Handle)
  /-- Tell clients what the seat can do. -/
  | setSeatCapabilities (capabilities : Capabilities)

/-- A toolkit, as a state with queries, commands and answered requests. -/
class Toolkit (T : Type) where
  /-- The backend. -/
  backend : T → Handle
  /-- The shell. -/
  shell : T → Handle
  /-- The cursor. -/
  cursor : T → Handle
  /-- The seat. -/
  seat : T → Handle
  /-- The mode that an output would like best. -/
  preferredMode : T → Handle → Option OutputMode
  /-- The place of a scene node. -/
  scenePosition : T → Handle → Point Coordinate
  /-- The topmost surface at a place. -/
  surfaceAt : T → Point Float → Option SurfaceHit
  /-- The toplevel whose surfaces include a surface. -/
  toplevelOf : T → Handle → Option Handle
  /-- The geometry that a toplevel has committed. -/
  toplevelGeometry : T → Handle → Box
  /-- The place of the cursor. -/
  cursorPosition : T → Point Float
  /-- The keysyms that a key stands for. -/
  keysyms : T → Handle → UInt32 → List Keysym
  /-- The modifiers that are held on a keyboard. -/
  keyboardModifiers : T → Handle → Modifiers
  /-- The surface with the pointer focus. -/
  pointerFocus : T → Option Handle
  /-- The client with the pointer focus. -/
  pointerClient : T → Option Handle
  /-- The surface with the keyboard focus. -/
  keyboardFocus : T → Option Handle
  /-- Carries a command out. -/
  perform : Command → T → T
  /-- Opens a listening socket and gives its name. -/
  openSocket : T → Except ToolkitError String × T
  /-- Starts the backend. -/
  startBackend : T → Except ToolkitError Unit × T
  /-- Commits the first state of an output, which it may refuse. -/
  commitOutput : Handle → OutputConfiguration → T → Bool × T
  /-- Commits a state that the backend asked for. -/
  commitRequestedState : Handle → Handle → T → Bool × T
  /-- Creates the scene node of a toplevel. -/
  createToplevelScene : Handle → T → Handle × T
  /-- Creates the scene node of a popup under its parent. -/
  createPopupScene : Handle → Handle → T → Handle × T
  /-- Connects a native listener to a signal. -/
  connect : Handle → Signal → T → Token × T
  /-- Disconnects a native listener. -/
  disconnect : Token → T → T

end Compositor
