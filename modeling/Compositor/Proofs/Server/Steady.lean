import Compositor.Proofs.Server.Journal
import Compositor.Server.Call

set_option autoImplicit false

/-!
# Steps that leave the objects as they are

Few handlers have to do with the coming and going of objects. All others leave the listeners and
the handles in the records as they are, and what they ask of the toolkit is about the objects of
windows or about the one object that the handler was subscribed for. This module says so once, for
every such handler and call.

## Main definitions

* `Server.Steady` — listeners and handles are as before, and the journal is about known objects.
* `Handler.isSteady`, `Handler.object?` — the handlers for which this holds, and their objects.
* `Server.Call.isSteady` — the calls for which this holds.

## Main results

* `Server.Steady.run`, `Server.Steady.serve` — steady handlers, one and several in turn.
* `Server.Steady.call` — steady calls.
-/

namespace Compositor

/-- Whether a handler has nothing to do with the coming and going of objects. -/
def Handler.isSteady : Handler → Bool
  | .newOutput | .newInput | .newToplevel | .newPopup | .toplevelDestroyed _ => false
  | _ => true

/-- The object that a handler passes on. -/
def Handler.object? : Handler → Option Handle
  | .popupCommit popup => some popup
  | .frame output => some output
  | .requestState output => some output
  | .modifiers device => some device
  | .key device => some device
  | _ => none

namespace Record.From

variable {windows : WindowTable} {own : List Handle} {record : Record} {id : WindowId}
  {window : Window}

/-- An entry about the toplevel of a window. -/
lemma toplevel (hw : windows.get? id = some window) (hs : record.stored = [window.toplevel])
    (hn : record.nodes = []) : record.From windows own where
  stored {handle} h := by
    rw [hs, List.mem_singleton] at h
    exact .inr ⟨id, window, hw, .inl h⟩
  nodes h := by simp [hn] at h

/-- An entry about the scene node of a window. -/
lemma scene (hw : windows.get? id = some window) (hs : record.stored = [])
    (hn : record.nodes = [window.scene]) : record.From windows own where
  stored h := by simp [hs] at h
  nodes {node} h := by
    rw [hn, List.mem_singleton] at h
    exact ⟨id, window, hw, h⟩

/-- The surface of a window gets the keyboard focus. -/
lemma surface (hw : windows.get? id = some window) :
    (Record.command (.keyboardEnter window.surface)).From windows own where
  stored {handle} h := by
    obtain rfl : handle = window.surface := List.mem_singleton.1 h
    exact .inr ⟨id, window, hw, .inr ⟨rfl, rfl⟩⟩
  nodes h := by simp [Record.nodes, Command.nodes] at h

end Record.From

namespace Server

variable {T : Type}

/-- Listeners, window numbers and the handles in the records are as before, and what went into the
journal is about the objects of windows or about given ones. -/
structure Steady (own : List Handle) (before after : Server T) : Prop where
  /-- The listeners are as before. -/
  registry_eq : after.registry = before.registry
  /-- The number of the next window is as before. -/
  nextWindow_eq : after.nextWindow = before.nextWindow
  /-- The records have the same handles. -/
  sameHandles : before.windows.SameHandles after.windows
  /-- What went into the journal. -/
  noted : Noted (Record.From before.windows own) before after

namespace Steady

variable {own other : List Handle} {before middle after : Server T}

/-- A state is steady from itself. -/
lemma refl (server : Server T) : Steady own server server :=
  ⟨rfl, rfl, .refl _, .refl _⟩

/-- Steady steps in turn are steady: the handles in the records do not change between them. -/
lemma trans (h : Steady own before middle) (h' : Steady own middle after) :
    Steady own before after where
  registry_eq := h'.registry_eq.trans h.registry_eq
  nextWindow_eq := h'.nextWindow_eq.trans h.nextWindow_eq
  sameHandles := h.sameHandles.trans h'.sameHandles
  noted := h.noted.trans (h'.noted.mono fun _ hr => hr.sameHandles h.sameHandles)

/-- Then the records change, but not their handles. -/
lemma thenWindows (h : Steady own before after) {table : WindowTable}
    (hw : after.windows.SameHandles table) :
    Steady own before { after with windows := table } :=
  { h with sameHandles := h.sameHandles.trans hw }

/-- Then something is asked of the toolkit. -/
lemma thenNote (h : Steady own before after) {record : Record}
    (hr : record.From before.windows own) {toolkit : T} :
    Steady own before ({ after with toolkit := toolkit }.note record) where
  registry_eq := h.registry_eq
  nextWindow_eq := h.nextWindow_eq
  sameHandles := h.sameHandles
  noted := h.noted.trans (.of_cons rfl hr)

/-- Then the windows are left alone, and so are listeners and journal. -/
lemma thenRest (h : Steady own before middle) (hr : after.registry = middle.registry)
    (hw : after.windows = middle.windows) (hn : after.nextWindow = middle.nextWindow)
    (hj : after.journal = middle.journal) : Steady own before after where
  registry_eq := hr.trans h.registry_eq
  nextWindow_eq := hn.trans h.nextWindow_eq
  sameHandles := by
    rw [hw]
    exact h.sameHandles
  noted := h.noted.trans (.of_eq hj)

/-- The toolkit changes by itself. -/
lemma of_toolkit (server : Server T) (toolkit : T) :
    Steady own server { server with toolkit := toolkit } :=
  (refl server).thenRest rfl rfl rfl rfl

/-- An unmapped window keeps its record, with the same handles. -/
lemma handleUnmap (server : Server T) (id : WindowId) :
    Steady own server (server.handleUnmap id) := by
  have hupdated : server.windows.SameHandles
      (server.windows.update id fun found => { found with mapped := false }) :=
    .update _ _ fun _ => rfl
  have hunmapped := hupdated.trans (.of_get?_eq (WindowTable.get?_unstack _ id))
  exact ((refl server).thenWindows hunmapped).thenRest rfl rfl rfl rfl

variable [Toolkit T] {server : Server T}

/-- Then a command is given. -/
lemma thenPerform (h : Steady own before after) {command : Command}
    (hr : (Record.command command).From before.windows own) :
    Steady own before (after.perform command) := h.thenNote hr

/-- A command without such handles. -/
lemma perform_of_nil (server : Server T) {command : Command} (hs : command.stored = [])
    (hn : command.nodes = []) : Steady own server (server.perform command) :=
  (refl server).thenPerform (.of_nil hs hn)

/-- A command about a given handle. -/
lemma perform_of_mem (server : Server T) {command : Command} {handle : Handle} (h : handle ∈ own)
    (hs : command.stored = [handle]) (hn : command.nodes = []) :
    Steady own server (server.perform command) :=
  (refl server).thenPerform (.of_mem h hs hn)

/-! ## Focus -/

/-- Only the toplevel of a window can be told that it is not active any more. -/
lemma deactivatePrevious (server : Server T) (previous : Option Handle) (toplevel : Handle) :
    Steady own server (server.deactivatePrevious previous toplevel) := by
  unfold Server.deactivatePrevious
  split
  · split
    · exact refl server
    · exact perform_of_nil server rfl rfl
  · exact refl server

/-- What is asked when a window gets the focus is about its toplevel, its node and its surface. -/
lemma focusWindow (server : Server T) (id : WindowId) (surface : Handle) :
    Steady own server (server.focusWindow id surface) := by
  unfold Server.focusWindow
  dsimp only
  split
  · exact refl server
  · split
    · exact refl server
    · rename_i window hw
      have hdeactivated : Steady own server (server.deactivatePrevious
        (Toolkit.keyboardFocus server.toolkit) window.toplevel) := deactivatePrevious _ _ _
      have hraised : Steady own server ((server.deactivatePrevious
          (Toolkit.keyboardFocus server.toolkit) window.toplevel).perform
          (.raiseToTop window.scene)) := hdeactivated.thenPerform (.scene hw rfl rfl)
      have hmoved := hraised.thenWindows (.of_get?_eq (WindowTable.get?_moveToFront _ id))
      exact (hmoved.thenPerform (.toplevel hw rfl rfl)).thenPerform (.surface hw)

/-- Cycling gives the focus to a window at most. -/
lemma cycleFocus (server : Server T) : Steady own server server.cycleFocus := by
  unfold Server.cycleFocus
  split
  · exact refl server
  · split
    · exact refl server
    · exact focusWindow _ _ _

/-! ## Windows -/

/-- A mapped window keeps its handles, and then gets the focus. -/
lemma handleMap (server : Server T) (id : WindowId) : Steady own server (server.handleMap id) := by
  unfold Server.handleMap
  split
  · exact refl server
  · have hupdated : server.windows.SameHandles
        (server.windows.update id fun found => { found with mapped := true }) :=
      .update _ _ fun _ => rfl
    have hmapped := hupdated.trans (.of_get?_eq (WindowTable.get?_push _ id))
    exact ((refl server).thenWindows hmapped).trans (focusWindow _ _ _)

/-- A commit changes the geometry in a record, and no handle. -/
lemma handleCommit (server : Server T) (id : WindowId) (initial : Bool) :
    Steady own server (server.handleCommit id initial) := by
  unfold Server.handleCommit
  split
  · exact refl server
  · rename_i window hw
    have hasked : Steady own server
        (if initial then server.perform (.scheduleConfigure window.toplevel) else server) := by
      split
      · exact (refl server).thenPerform (.toplevel hw rfl rfl)
      · exact refl server
    exact hasked.thenWindows (.update _ _ fun _ => rfl)

/-! ## The pointer -/

/-- A window is placed by its node, and its record keeps its handles. -/
lemma placeWindow {id : WindowId} {window : Window} (hw : server.windows.get? id = some window)
    (position : Point Coordinate) :
    Steady own server (server.placeWindow id window.scene position) := by
  have hplaced : server.windows.SameHandles
      (server.windows.update id fun found => { found with position }) :=
    .update _ _ fun _ => rfl
  exact ((refl server).thenWindows hplaced).thenPerform (.scene hw rfl rfl)

/-- A move places its window, or ends. -/
lemma processMove (server : Server T) (grab : MoveGrab) :
    Steady own server (server.processMove grab) := by
  unfold Server.processMove
  split
  · exact (refl server).thenRest rfl rfl rfl rfl
  · rename_i hw
    exact placeWindow hw _

/-- A resize places its window and asks its toplevel for a size, or ends. -/
lemma processResize (server : Server T) (grab : ResizeGrab) :
    Steady own server (server.processResize grab).server := by
  unfold Server.processResize
  split
  · exact (refl server).thenRest rfl rfl rfl rfl
  · rename_i hw
    dsimp only
    split
    · exact refl server
    · exact (placeWindow hw _).thenPerform (.toplevel hw rfl rfl)

/-- The cursor is no object of a window. -/
lemma showDefaultCursor (server : Server T) (hit : Option SurfaceHit) :
    Steady own server (server.showDefaultCursor hit) := by
  unfold Server.showDefaultCursor
  split
  · exact refl server
  · exact perform_of_nil server rfl rfl

/-- What passes through to a client is about no object that the server keeps. -/
lemma processPassThrough (server : Server T) (time : UInt32) :
    Steady own server (server.processPassThrough time) := by
  unfold Server.processPassThrough
  dsimp only
  have hshown : Steady own server _ := showDefaultCursor server
    (Toolkit.surfaceAt server.toolkit (Toolkit.cursorPosition server.toolkit))
  split
  · exact (hshown.thenPerform (.of_nil rfl rfl)).thenPerform (.of_nil rfl rfl)
  · exact hshown.thenPerform (.of_nil rfl rfl)

/-- Motion does what the grab says. -/
lemma processMotion (server : Server T) (time : UInt32) :
    Steady own server (server.processMotion time).server := by
  unfold Server.processMotion
  split
  · exact processMove server _
  · exact processResize server _
  · exact processPassThrough server time

/-- A button is passed on, and may give a window the focus or end a grab. -/
lemma handleButton (server : Server T) (time button : UInt32) (state : Press) :
    Steady own server (server.handleButton time button state) := by
  have hforwarded : Steady own server (server.perform (.pointerButton time button state)) :=
    perform_of_nil server rfl rfl
  cases state with
  | released => exact hforwarded.thenRest rfl rfl rfl rfl
  | pressed =>
    unfold Server.handleButton Server.focusUnderCursor
    dsimp only
    split
    · exact hforwarded
    · split
      · exact hforwarded
      · exact hforwarded.trans (focusWindow _ _ _)

/-- A request changes the grab at most. -/
lemma beginInteractive (server : Server T) (id : WindowId) (mode : GrabMode) (edges : Edges) :
    Steady own server (server.beginInteractive id mode edges).server := by
  unfold Server.beginInteractive
  split
  · exact refl server
  · exact refl server
  · exact (refl server).thenRest rfl rfl rfl rfl

/-- A request for the cursor is about no object that the server keeps. -/
lemma handleSetCursorRequest (server : Server T) (client : Handle) (surface : Option Handle)
    (hotspot : Point Int32) :
    Steady own server (server.handleSetCursorRequest client surface hotspot) := by
  unfold Server.handleSetCursorRequest
  split
  · exact perform_of_nil server rfl rfl
  · exact refl server

/-! ## Devices and outputs -/

/-- To terminate asks for nothing about objects. -/
lemma terminate (server : Server T) : Steady own server server.terminate :=
  ((refl server).thenPerform (.of_nil rfl rfl)).thenRest rfl rfl rfl rfl

/-- Modifiers are passed on for their own keyboard. -/
lemma handleModifiers (server : Server T) {device : Handle} (h : device ∈ own) :
    Steady own server (server.handleModifiers device) :=
  (perform_of_mem server h rfl rfl).thenPerform (.of_mem h rfl rfl)

/-- A key is passed on for its own keyboard, or does what it is bound to. -/
lemma handleKey (server : Server T) {device : Handle} (h : device ∈ own) (time keycode : UInt32)
    (state : Press) : Steady own server (server.handleKey device time keycode state) := by
  unfold Server.handleKey
  split
  · rename_i action _
    cases action with
    | terminate => exact terminate server
    | cycleFocus => exact cycleFocus server
  · exact (perform_of_mem server h rfl rfl).thenPerform (.of_nil rfl rfl)

/-- A keyboard that is forgotten keeps its listeners for now. -/
lemma detachKeyboard (server : Server T) (device : Handle) :
    Steady own server (server.detachKeyboard device) := by
  have hforgotten : Steady own server { server with
      keyboards := server.keyboards.filter fun other => other ≠ device } :=
    (refl server).thenRest rfl rfl rfl rfl
  exact hforgotten.thenPerform (.of_nil rfl rfl)

/-! ## Handlers -/

/-- A steady handler is a steady step, whatever the event and whether or not it ends by a fault. -/
theorem run (server : Server T) (handler : Handler) (h : handler.isSteady = true)
    (hown : ∀ object, handler.object? = some object → object ∈ own) (event : Event) :
    Steady own server (handler.run event server).server := by
  unfold Handler.run
  split
  any_goals exact refl server
  any_goals cases h
  · exact Steady.trans (perform_of_nil server rfl rfl) (processMotion _ _)
  · exact Steady.trans (perform_of_nil server rfl rfl) (processMotion _ _)
  · exact handleButton server _ _ _
  · exact perform_of_nil server rfl rfl
  · exact perform_of_nil server rfl rfl
  · exact handleSetCursorRequest server _ _ _
  · exact handleMap server _
  · exact handleUnmap server _
  · exact handleCommit server _ _
  · exact beginInteractive server _ _ _
  · exact beginInteractive server _ _ _
  · exact perform_of_mem server (hown _ rfl) rfl rfl
  · exact perform_of_mem server (hown _ rfl) rfl rfl
  · exact (refl server).thenNote (.of_mem (hown _ rfl) rfl rfl)
  · exact (refl server).thenRest rfl rfl rfl rfl
  · exact handleModifiers server (hown _ rfl)
  · exact handleKey server (hown _ rfl) _ _ _
  · exact detachKeyboard server _
  · exact (refl server).thenNote (.of_nil rfl rfl)

/-- Steady handlers in turn are a steady step. -/
theorem serve (server : Server T) {callbacks : List (Callback Handler)} (event : Event)
    (h : ∀ callback ∈ callbacks, ∃ handler : Handler, callback = .run handler ∧
      handler.isSteady = true ∧ ∀ object, handler.object? = some object → object ∈ own) :
    Steady own server (server.serve event callbacks).server := by
  induction callbacks generalizing server with
  | nil => exact refl server
  | cons callback rest ih =>
    obtain ⟨handler, rfl, hsteady, hown⟩ := h callback (List.mem_cons_self ..)
    have hran := run server _ hsteady hown event
    unfold Server.serve Server.runCallback
    dsimp only
    split
    · exact hran
    · exact hran.trans (ih _ fun other ho => h other (List.mem_cons_of_mem _ ho))

end Steady

/-! ## Calls -/

/-- Whether a call has nothing to do with listeners or with the coming and going of objects. -/
def Call.isSteady : Call → Bool
  | .start _ | .terminate | .cycleFocus | .focusWindow _ _ | .beginInteractive _ _ _
  | .processMotion _ => true
  | _ => false

namespace Steady

variable [Toolkit T]

/-- A start asks for a socket and for the backend, and for no object. -/
lemma start (server : Server T) (host : Host) :
    Steady [] server (server.start host).server := by
  have hopened : Steady [] server server.openSocket.2 := (refl server).thenNote (.of_nil rfl rfl)
  have hstarted : Steady [] server server.openSocket.2.startBackend.2 :=
    hopened.thenNote (.of_nil rfl rfl)
  obtain ⟨asked, hasked, socket, running, display, hstart⟩ := server.start_server host
  rw [hstart]
  obtain rfl | rfl := hasked
  · exact hopened.thenRest rfl rfl rfl rfl
  · exact hstarted.thenRest rfl rfl rfl rfl

/-- A steady call is a steady step, and it passes on no objects but those of windows. -/
theorem call (server : Server T) {call : Call} (h : call.isSteady = true) :
    Steady [] server (server.call call).server := by
  cases call with
  | start host => exact start server host
  | terminate => exact terminate server
  | cycleFocus => exact cycleFocus server
  | focusWindow id surface => exact focusWindow server id surface
  | beginInteractive id mode edges => exact beginInteractive server id mode edges
  | processMotion time => exact processMotion server time
  | _ => cases h

end Steady

end Server

end Compositor
