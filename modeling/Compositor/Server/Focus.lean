import Compositor.Server.Basic

set_option autoImplicit false

/-!
# Keyboard focus

Focusing a window raises it, moves it to the front of the focus stack, activates it and gives its
root surface the keyboard focus.

## Main definitions

* `Server.windowForSurface?` — the window to which a surface belongs.
* `Server.focusWindow` — focuses a window through one of its surfaces.
* `Server.cycleFocus` — focuses the window behind the focused one.
-/

namespace Compositor.Server

variable {T : Type} [Toolkit T]

/-- The window to which a surface belongs, which may be a subsurface or a popup. -/
def windowForSurface? (server : Server T) (surface : Handle) : Option WindowId :=
  (Toolkit.toplevelOf server.toolkit surface).bind server.windows.findByToplevel?

/-- Deactivates the toplevel of the surface that had the focus, unless it is the one that gets
it. -/
def deactivatePrevious (server : Server T) (previous : Option Handle) (toplevel : Handle) :
    Server T :=
  match previous.bind (Toolkit.toplevelOf server.toolkit) with
  | some other =>
    if other = toplevel then server else server.perform (.setActivated other false)
  | none => server

/-- Focuses a window through one of its surfaces, unless that surface has the focus already. -/
def focusWindow (server : Server T) (id : WindowId) (surface : Handle) : Server T :=
  let previous := Toolkit.keyboardFocus server.toolkit
  if previous = some surface then server
  else
    match server.windows.get? id with
    | none => server
    | some window =>
      let raised :=
        (server.deactivatePrevious previous window.toplevel).perform (.raiseToTop window.scene)
      let moved := { raised with windows := raised.windows.moveToFront id }
      (moved.perform (.setActivated window.toplevel true)).perform (.keyboardEnter window.surface)

/-- Focuses the window right behind the focused one, if there is one. -/
def cycleFocus (server : Server T) : Server T :=
  match server.windows.next? with
  | none => server
  | some next =>
    match server.windows.get? next with
    | none => server
    | some window => server.focusWindow next window.surface

end Compositor.Server
