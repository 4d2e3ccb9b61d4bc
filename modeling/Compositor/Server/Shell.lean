import Compositor.Server.Pointer

set_option autoImplicit false

/-!
# Windows and popups

A window has two objects of the toolkit: the toplevel and its root surface. Being mapped, unmapped
and committed are signals of the surface; requests and the end of the window are signals of the
toplevel.

## Main definitions

* `Server.handleNewToplevel`, `Server.handleToplevelDestroyed` — windows come and go.
* `Server.handleMap`, `Server.handleUnmap`, `Server.handleCommit` — a window's surface.
* `Server.handleNewPopup` — popups.
-/

namespace Compositor.Server

variable {T : Type} [Toolkit T]

/-- What is listened to on a window's surface and toplevel. -/
def toplevelWiring (id : WindowId) (toplevel surface : Handle) : List Wiring :=
  [.run surface .map (.map id), .run surface .unmap (.unmap id),
    .run surface .commit (.commit id), .run toplevel .destroy (.toplevelDestroyed id),
    .run toplevel .requestMove (.requestMove id), .run toplevel .requestResize (.requestResize id),
    .track surface, .track toplevel]

/-- Creates the scene node of a toplevel. -/
def createToplevelScene (server : Server T) (toplevel : Handle) : Handle × Server T :=
  let answer := Toolkit.createToplevelScene toplevel server.toolkit
  (answer.1, { server with toolkit := answer.2 }.note (.toplevelScene toplevel answer.1))

/-- Creates the scene node of a popup. -/
def createPopupScene (server : Server T) (popup parent : Handle) : Server T :=
  let answer := Toolkit.createPopupScene popup parent server.toolkit
  { server with toolkit := answer.2 }.note (.popupScene popup parent answer.1)

/-- Adds the record of a new window, under the next number. -/
def addWindow (server : Server T) (toplevel surface scene : Handle) : WindowId × Server T :=
  let id := WindowId.mk server.nextWindow
  let position := Toolkit.scenePosition server.toolkit scene
  (id,
    { server with
      windows := server.windows.insert { Window.fresh id toplevel surface scene with position }
      nextWindow := server.nextWindow + 1 })

/-- Creates a window. -/
def handleNewToplevel (server : Server T) (toplevel surface : Handle) : Server T :=
  let created := ((server.revive toplevel).revive surface).createToplevelScene toplevel
  let added := created.2.addWindow toplevel surface created.1
  added.2.listenAll (toplevelWiring added.1 toplevel surface)

/-- Takes note of a window's committed geometry. After the first commit the client is asked to
choose its own size. -/
def handleCommit (server : Server T) (id : WindowId) (initial : Bool) : Server T :=
  match server.windows.get? id with
  | none => server
  | some window =>
    let asked := if initial then server.perform (.scheduleConfigure window.toplevel) else server
    let geometry := Toolkit.toplevelGeometry asked.toolkit window.toplevel
    { asked with windows := asked.windows.update id fun found => { found with geometry } }

/-- Makes a window visible and focuses it. -/
def handleMap (server : Server T) (id : WindowId) : Server T :=
  match server.windows.get? id with
  | none => server
  | some window =>
    let mapped := server.windows.update id fun found => { found with mapped := true }
    { server with windows := mapped.push id }.focusWindow id window.surface

/-- Makes a window invisible. -/
def handleUnmap (server : Server T) (id : WindowId) : Server T :=
  let released := server.releaseGrab id
  let unmapped := released.windows.update id fun found => { found with mapped := false }
  { released with windows := unmapped.unstack id }

/-- Destroys a window. Its surface may live on, but its listeners go now. -/
def handleToplevelDestroyed (server : Server T) (id : WindowId) : Server T :=
  let released := server.releaseGrab id
  match released.windows.get? id with
  | none => { released with windows := released.windows.destroy id }
  | some window =>
    ({ released with windows := released.windows.destroy id }.unregisterAll window.surface).2

/-- Creates a popup under its parent, which it must have. -/
def handleNewPopup (server : Server T) (popup : Handle) (parent : Option Handle) :
    Outcome T Unit :=
  match parent with
  | none => server.fail (.orphanPopup popup)
  | some parent =>
    (((server.revive popup).createPopupScene popup parent).listenAll
      [.run popup .commit (.popupCommit popup), .track popup]).finish ()

end Compositor.Server
