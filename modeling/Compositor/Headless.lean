import Compositor.Toolkit

set_option autoImplicit false

/-!
# A headless toolkit

A toolkit without screen and clients. It keeps the paint order of scene nodes, the cursor, the two
focuses, and tables that say which surface, client and geometry belongs to which object. Its
answers follow from these; settings change them from outside, as clients and devices would.

## Main definitions

* `Headless` — the state, and its instance of `Toolkit`.
* `Headless.standard` — the state before anything happened.
* `Headless.Setting` — a change from outside, carried out by `Headless.configure`.
-/

namespace Compositor

/-- A scene node. -/
structure SceneNode where
  /-- Its handle. -/
  id : Handle
  /-- Its place. -/
  position : Point Coordinate
  /-- The toplevel it shows; a popup's node has none. -/
  toplevel : Option Handle

/-- The state of a headless toolkit. -/
structure Headless where
  /-- The backend. -/
  backend : Handle
  /-- The shell. -/
  shell : Handle
  /-- The cursor. -/
  cursor : Handle
  /-- The seat. -/
  seat : Handle
  /-- What opening the socket gives. -/
  socket : Except ToolkitError String
  /-- What starting the backend gives. -/
  start : Except ToolkitError Unit
  /-- Whether output states are accepted. -/
  acceptsCommits : Bool
  /-- The place of the cursor. -/
  cursorPosition : Point Float
  /-- The value of the newest scene node. -/
  newestNode : UInt64
  /-- The scene nodes in paint order; the last one is topmost. -/
  nodes : List SceneNode
  /-- The toplevel of a surface. -/
  toplevelOf : Std.ExtTreeMap Handle Handle
  /-- The root surface of a toplevel. -/
  surfaceOf : Std.ExtTreeMap Handle Handle
  /-- The client of a surface. -/
  clientOf : Std.ExtTreeMap Handle Handle
  /-- The geometry of a toplevel. -/
  geometryOf : Std.ExtTreeMap Handle Box
  /-- Where the node of a toplevel is placed at first. -/
  placementOf : Std.ExtTreeMap Handle (Point Coordinate)
  /-- The subsurface that covers a root surface. -/
  subsurfaceOf : Std.ExtTreeMap Handle Handle
  /-- The preferred mode of an output. -/
  modeOf : Std.ExtTreeMap Handle OutputMode
  /-- The keysyms of a key. -/
  keymap : Std.ExtTreeMap UInt32 (List Keysym)
  /-- The modifiers that are held. -/
  modifiers : Modifiers
  /-- The surface with the pointer focus. -/
  pointerFocus : Option Handle
  /-- The surface with the keyboard focus. -/
  keyboardFocus : Option Handle
  /-- The number of native listeners connected so far. -/
  connections : Nat

namespace Headless

/-- The state before anything happened. -/
def standard : Headless where
  backend := ⟨0x10⟩
  shell := ⟨0x20⟩
  cursor := ⟨0x30⟩
  seat := ⟨0x40⟩
  socket := .ok "wayland-1"
  start := .ok ()
  acceptsCommits := true
  cursorPosition := ⟨0, 0⟩
  newestNode := 0x9000
  nodes := []
  toplevelOf := ∅
  surfaceOf := ∅
  clientOf := ∅
  geometryOf := ∅
  placementOf := ∅
  subsurfaceOf := ∅
  modeOf := ∅
  keymap :=
    ((((∅ : Std.ExtTreeMap UInt32 (List Keysym)).insert 1 [Keysym.escape]).insert 59
      [Keysym.f1]).insert 30 [⟨0x61⟩]).insert 16 [⟨0x71⟩]
  modifiers := FlagSet.none
  pointerFocus := none
  keyboardFocus := none
  connections := 0

/-! ## Queries -/

/-- The geometry of a toplevel; two hundred by one hundred where none was set. -/
def geometry (headless : Headless) (toplevel : Handle) : Box :=
  headless.geometryOf[toplevel]?.getD ⟨0, 0, 200, 100⟩

/-- The place of a scene node; the origin if it is not known. -/
def scenePosition (headless : Headless) (node : Handle) : Point Coordinate :=
  match headless.nodes.find? fun other => other.id = node with
  | some found => found.position
  | none => ⟨0, 0⟩

/-- The hit of a node at a place. A window reaches from the node's place to the far corner of its
geometry, near edges inclusive and far edges exclusive. -/
def hit? (headless : Headless) (place : Point Float) (node : SceneNode) : Option SurfaceHit :=
  match node.toplevel with
  | none => none
  | some toplevel =>
    match headless.surfaceOf[toplevel]? with
    | none => none
    | some root =>
      let x := node.position.x.toDouble
      let y := node.position.y.toDouble
      let box := headless.geometry toplevel
      let width := box.x.toDouble + box.width.toDouble
      let height := box.y.toDouble + box.height.toDouble
      if x ≤ place.x ∧ place.x < x + width ∧ y ≤ place.y ∧ place.y < y + height then
        some ⟨headless.subsurfaceOf[root]?.getD root, ⟨place.x - x, place.y - y⟩⟩
      else none

/-- The topmost hit at a place. -/
def surfaceAt (headless : Headless) (place : Point Float) : Option SurfaceHit :=
  headless.nodes.reverse.findSome? (headless.hit? place)

/-! ## Commands and requests -/

/-- Adds a scene node on top. -/
def addNode (headless : Headless) (position : Point Coordinate) (toplevel : Option Handle) :
    Handle × Headless :=
  let value := headless.newestNode + 1
  (⟨value⟩,
    { headless with
      newestNode := value
      nodes := headless.nodes ++ [⟨⟨value⟩, position, toplevel⟩] })

/-- Carries a command out, as far as it concerns the state. -/
def perform (headless : Headless) : Command → Headless
  | .setScenePosition id position =>
    { headless with
      nodes := headless.nodes.map fun node =>
        if node.id = id then { node with position } else node }
  | .raiseToTop id =>
    let raised := headless.nodes.filter fun node => node.id = id
    { headless with nodes := headless.nodes.filter (fun node => node.id ≠ id) ++ raised }
  | .moveCursor _ offset =>
    let place := headless.cursorPosition
    { headless with cursorPosition := ⟨place.x + offset.x, place.y + offset.y⟩ }
  | .warpCursor _ place => { headless with cursorPosition := ⟨place.x * 1000, place.y * 1000⟩ }
  | .pointerEnter surface _ => { headless with pointerFocus := some surface }
  | .clearPointerFocus => { headless with pointerFocus := none }
  | .keyboardEnter surface => { headless with keyboardFocus := some surface }
  | _ => headless

instance : Toolkit Headless where
  backend := Headless.backend
  shell := Headless.shell
  cursor := Headless.cursor
  seat := Headless.seat
  preferredMode headless output := headless.modeOf[output]?
  scenePosition := Headless.scenePosition
  surfaceAt := Headless.surfaceAt
  toplevelOf headless surface := headless.toplevelOf[surface]?
  toplevelGeometry := Headless.geometry
  cursorPosition := Headless.cursorPosition
  keysyms headless _ keycode := headless.keymap[keycode]?.getD []
  keyboardModifiers headless _ := headless.modifiers
  pointerFocus := Headless.pointerFocus
  pointerClient headless := headless.pointerFocus.bind fun surface => headless.clientOf[surface]?
  keyboardFocus := Headless.keyboardFocus
  perform command headless := headless.perform command
  openSocket headless := (headless.socket, headless)
  startBackend headless := (headless.start, headless)
  commitOutput _ _ headless := (headless.acceptsCommits, headless)
  commitRequestedState _ _ headless := (headless.acceptsCommits, headless)
  createToplevelScene toplevel headless :=
    headless.addNode (headless.placementOf[toplevel]?.getD ⟨0, 0⟩) (some toplevel)
  createPopupScene _ _ headless := headless.addNode ⟨0, 0⟩ none
  connect _ _ headless :=
    (⟨headless.connections + 1⟩, { headless with connections := headless.connections + 1 })
  disconnect _ headless := headless

/-! ## Changes from outside -/

/-- A change from outside. -/
inductive Setting where
  /-- The global objects are these. -/
  | globals (backend shell cursor seat : Handle)
  /-- Opening the socket will give this. -/
  | socket (answer : Except ToolkitError String)
  /-- Starting the backend will give this. -/
  | start (answer : Except ToolkitError Unit)
  /-- Output states will be accepted or not. -/
  | acceptsCommits (accepts : Bool)
  /-- An output would like a mode. -/
  | mode (output : Handle) (mode : OutputMode)
  /-- The cursor is at a place. -/
  | cursor (place : Point Float)
  /-- A toplevel has a geometry. -/
  | geometry (toplevel : Handle) (geometry : Box)
  /-- A surface belongs to a toplevel. -/
  | owner (surface toplevel : Handle)
  /-- A subsurface covers a root surface. -/
  | subsurface (root subsurface : Handle)
  /-- A surface belongs to a client. -/
  | client (surface client : Handle)
  /-- A key stands for keysyms. -/
  | key (keycode : UInt32) (keysyms : List Keysym)
  /-- These modifiers are held. -/
  | modifiers (modifiers : Modifiers)
  /-- A surface, or none, has the pointer focus. -/
  | pointerFocus (surface : Option Handle)
  /-- A surface, or none, has the keyboard focus. -/
  | keyboardFocus (surface : Option Handle)
  /-- A toplevel has a root surface and, where given, a client, a geometry and a first place. -/
  | window (toplevel surface : Handle) (client : Option Handle) (geometry : Option Box)
    (placement : Option (Point Coordinate))
  /-- A toplevel is gone, with its nodes and surfaces. -/
  | forget (toplevel : Handle)

/-- Inserts a value if there is one. -/
def insertSome {α : Type} (table : Std.ExtTreeMap Handle α) (key : Handle) :
    Option α → Std.ExtTreeMap Handle α
  | some value => table.insert key value
  | none => table

/-- Makes a change from outside. -/
def configure (headless : Headless) : Setting → Headless
  | .globals backend shell cursor seat => { headless with backend, shell, cursor, seat }
  | .socket answer => { headless with socket := answer }
  | .start answer => { headless with start := answer }
  | .acceptsCommits accepts => { headless with acceptsCommits := accepts }
  | .mode output mode => { headless with modeOf := headless.modeOf.insert output mode }
  | .cursor place => { headless with cursorPosition := place }
  | .geometry toplevel geometry =>
    { headless with geometryOf := headless.geometryOf.insert toplevel geometry }
  | .owner surface toplevel =>
    { headless with toplevelOf := headless.toplevelOf.insert surface toplevel }
  | .subsurface root subsurface =>
    { headless with subsurfaceOf := headless.subsurfaceOf.insert root subsurface }
  | .client surface client => { headless with clientOf := headless.clientOf.insert surface client }
  | .key keycode keysyms => { headless with keymap := headless.keymap.insert keycode keysyms }
  | .modifiers modifiers => { headless with modifiers }
  | .pointerFocus surface => { headless with pointerFocus := surface }
  | .keyboardFocus surface => { headless with keyboardFocus := surface }
  | .window toplevel surface client geometry placement =>
    { headless with
      toplevelOf := headless.toplevelOf.insert surface toplevel
      surfaceOf := headless.surfaceOf.insert toplevel surface
      clientOf := insertSome headless.clientOf surface client
      geometryOf := insertSome headless.geometryOf toplevel geometry
      placementOf := insertSome headless.placementOf toplevel placement }
  | .forget toplevel =>
    { headless with
      nodes := headless.nodes.filter fun node => node.toplevel ≠ some toplevel
      toplevelOf := headless.toplevelOf.filter fun _ owner => owner ≠ toplevel
      surfaceOf := headless.surfaceOf.erase toplevel }

end Headless

end Compositor
