import Compositor.Server.Focus

set_option autoImplicit false

/-!
# The pointer

Cursor motion drives the active grab, or reaches the surface under the cursor if there is none. A
pressed button focuses the window under the cursor, a released one ends the grab.

## Main definitions

* `Server.processMotion` — applies the cursor's place.
* `Server.handleMotion`, `Server.handleMotionAbsolute`, `Server.handleButton` — pointer events.
* `Server.grabFor?`, `Server.beginInteractive` — the start of a grab.
* `Server.handleSetCursorRequest` — a client's own cursor image.
-/

namespace Compositor.Server

variable {T : Type} [Toolkit T]

/-- Ends the grab, if there is one. -/
def resetGrab (server : Server T) : Server T :=
  { server with interaction := .passThrough }

/-- Ends the grab if it is on a given window. -/
def releaseGrab (server : Server T) (window : WindowId) : Server T :=
  { server with interaction := server.interaction.release window }

/-- Places a window and its scene node in the layout. -/
def placeWindow (server : Server T) (id : WindowId) (scene : Handle)
    (position : Point Coordinate) : Server T :=
  { server with
    windows := server.windows.update id fun found => { found with position } }.perform
      (.setScenePosition scene position)

/-- Moves the grabbed window. -/
def processMove (server : Server T) (grab : MoveGrab) : Server T :=
  match server.windows.get? grab.window with
  | none => server.resetGrab
  | some window =>
    server.placeWindow grab.window window.scene
      (grab.target (Toolkit.cursorPosition server.toolkit))

/-- The place at which a window's geometry fills a box. -/
def originOf (target geometry : Box) : Except Overflow (Point Coordinate) := do
  let x ← Coordinate.sub target.x geometry.x
  let y ← Coordinate.sub target.y geometry.y
  return ⟨x, y⟩

/-- Resizes the grabbed window from its anchor. -/
def processResize (server : Server T) (grab : ResizeGrab) : Outcome T Unit :=
  match server.windows.get? grab.window with
  | none => server.resetGrab.finish ()
  | some window =>
    let target := grab.target (Toolkit.cursorPosition server.toolkit)
    match originOf target (Toolkit.toplevelGeometry server.toolkit window.toplevel) with
    | .error cause => server.fail (.overflow cause)
    | .ok position =>
      ((server.placeWindow grab.window window.scene position).perform
        (.setToplevelSize window.toplevel target.width.toUInt32 target.height.toUInt32)).finish ()

/-- Shows the default cursor image where the surface under the cursor belongs to no window. -/
def showDefaultCursor (server : Server T) (hit : Option SurfaceHit) : Server T :=
  match hit.bind fun hit => server.windowForSurface? hit.surface with
  | some _ => server
  | none => server.perform (.setCursorImage server.config.cursor.defaultImage)

/-- Lets the motion reach the surface under the cursor. -/
def processPassThrough (server : Server T) (time : UInt32) : Server T :=
  let hit := Toolkit.surfaceAt server.toolkit (Toolkit.cursorPosition server.toolkit)
  let shown := server.showDefaultCursor hit
  match hit with
  | some hit =>
    (shown.perform (.pointerEnter hit.surface hit.place)).perform (.pointerMotion time hit.place)
  | none => shown.perform .clearPointerFocus

/-- Applies the cursor's place. -/
def processMotion (server : Server T) (time : UInt32) : Outcome T Unit :=
  match server.interaction with
  | .move grab => (server.processMove grab).finish ()
  | .resize grab => server.processResize grab
  | .passThrough => (server.processPassThrough time).finish ()

/-- Moves the cursor by an offset. -/
def handleMotion (server : Server T) (device : Handle) (time : UInt32) (offset : Point Float) :
    Outcome T Unit :=
  (server.perform (.moveCursor device offset)).processMotion time

/-- Moves the cursor to a place. -/
def handleMotionAbsolute (server : Server T) (device : Handle) (time : UInt32)
    (place : Point Float) : Outcome T Unit :=
  (server.perform (.warpCursor device place)).processMotion time

/-- Focuses the window under the cursor, if there is one. -/
def focusUnderCursor (server : Server T) : Server T :=
  match Toolkit.surfaceAt server.toolkit (Toolkit.cursorPosition server.toolkit) with
  | none => server
  | some hit =>
    match server.windowForSurface? hit.surface with
    | none => server
    | some id => server.focusWindow id hit.surface

/-- Forwards a button, then focuses the window under the cursor or ends the grab. -/
def handleButton (server : Server T) (time button : UInt32) (state : Press) : Server T :=
  let forwarded := server.perform (.pointerButton time button state)
  match state with
  | .released => forwarded.resetGrab
  | .pressed => forwarded.focusUnderCursor

/-! ## The start of a grab -/

/-- The grab that a request for a window gets. There is none unless the pointer is over the window,
since clients make requests for old button presses too. -/
def grabFor? (server : Server T) (id : WindowId) (mode : GrabMode) (edges : Edges) :
    Except Overflow (Option Interaction) :=
  match server.windows.get? id with
  | none => .ok none
  | some window =>
    let focused :=
      (Toolkit.pointerFocus server.toolkit).bind (Toolkit.toplevelOf server.toolkit)
    if focused = some window.toplevel then
      let cursor := Toolkit.cursorPosition server.toolkit
      match mode with
      | .move => .ok (some (.beginMove id cursor window.position))
      | .resize =>
        let geometry := Toolkit.toplevelGeometry server.toolkit window.toplevel
        (Interaction.beginResize? id cursor window.position geometry edges).map some
    else .ok none

/-- Begins a move or resize of a window; whether it was granted. -/
def beginInteractive (server : Server T) (id : WindowId) (mode : GrabMode) (edges : Edges) :
    Outcome T Bool :=
  match server.grabFor? id mode edges with
  | .error cause => server.fail (.overflow cause)
  | .ok none => server.finish false
  | .ok (some interaction) => { server with interaction }.finish true

/-- Shows a client's own cursor image, if that client has the pointer focus. -/
def handleSetCursorRequest (server : Server T) (client : Handle) (surface : Option Handle)
    (hotspot : Point Int32) : Server T :=
  if Toolkit.pointerClient server.toolkit = some client then
    server.perform (.setCursorSurface surface hotspot)
  else server

end Compositor.Server
