import Compositor.Proofs.Server.FocusStack
import Compositor.Proofs.Server.Replay
import Compositor.Proofs.Server.Subscriptions
import Compositor.Proofs.Windows.Fronting

set_option autoImplicit false

/-!
# Steps that nobody sees

Most of what the server does changes nothing that can be seen of its windows: not their objects, not
which of them are mapped and stacked, not the focus, the order of their nodes or their activation.
Announcements of outputs, devices and popups belong here as well, as far as windows are concerned.
This module says so once, for every such handler.

## Main definitions

* `Server.Still` — nothing that can be seen changes.
* `Handler.isStill` — the handlers for which this holds.

## Main results

* `Server.Still.run` — these handlers change nothing that can be seen.
* `Server.Still.of_create`, `Server.Still.start` — neither does the creation of a server, nor the
  opening of the display.
-/

namespace Compositor

/-- Whether a handler changes nothing that can be seen of windows. -/
def Handler.isStill : Handler → Bool
  | .newToplevel | .newPopup | .button | .map _ | .unmap _ | .toplevelDestroyed _ | .key _ => false
  | _ => true

namespace Server

variable {T : Type} [Toolkit T] {server before middle after : Server T}

/-! ## Listeners in the journal -/

namespace Shown

/-- A registration connects a native listener at most, which cannot be seen. -/
lemma register (server : Server T) (handle : Handle) (signal : Signal)
    (callback : Callback Handler) :
    Shown [] server (server.register handle signal callback).2 := by
  unfold Server.register
  split
  · exact refl server
  · split
    · exact of_eq rfl rfl
    · exact of_invisible rfl rfl rfl

/-- Wirings cannot be seen. -/
lemma listenAll (server : Server T) (wirings : List Wiring) :
    Shown [] server (server.listenAll wirings) := by
  induction wirings generalizing server with
  | nil => exact refl server
  | cons wiring rest ih => exact (register server _ _ _).trans (ih _)

/-- Wirings that must all succeed cannot be seen. -/
lemma wireAll {wirings : List Wiring} (h : server.wireAll wirings = .ok after) :
    Shown [] server after := by
  induction wirings generalizing server with
  | nil =>
    cases h
    exact refl _
  | cons wiring rest ih =>
    have hfirst := register server wiring.handle wiring.signal wiring.callback
    unfold Server.wireAll at h
    split at h <;> rename_i hr
    · rw [hr] at hfirst
      exact hfirst.trans (ih h)
    · cases h

/-- Disconnecting cannot be seen. -/
lemma disconnectAll (server : Server T) (listeners : List (Listener Handler)) :
    Shown [] server (server.disconnectAll listeners) := by
  unfold Server.disconnectAll
  induction listeners generalizing server with
  | nil => exact refl server
  | cons listener rest ih =>
    have hfirst : Shown [] server (server.disconnect listener.token) := of_invisible rfl rfl rfl
    exact hfirst.trans (ih _)

/-- Releasing a handle cannot be seen. -/
lemma unregisterAll (server : Server T) (handle : Handle) :
    Shown [] server (server.unregisterAll handle).2 := by
  have htaken : Shown [] server { server with registry := (server.registry.take handle).2 } :=
    of_eq rfl rfl
  exact htaken.trans (disconnectAll _ _)

/-- Retiring a handle cannot be seen. -/
lemma retire (server : Server T) (handle : Handle) : Shown [] server (server.retire handle) := by
  have htaken : Shown [] server { server with registry := (server.registry.retire handle).2 } :=
    of_eq rfl rfl
  exact htaken.trans (disconnectAll _ _)

end Shown

/-! ## Still steps -/

/-- Nothing that can be seen of windows changes. -/
structure Still (before after : Server T) : Prop where
  /-- The windows look as before. -/
  alike : before.windows.Alike after.windows
  /-- Nothing that can be seen is asked of the toolkit. -/
  shown : Shown [] before after

namespace Still

/-- A state looks like itself. -/
lemma refl (server : Server T) : Still server server := ⟨.refl _, .refl _⟩

/-- Still steps in turn are still. -/
lemma trans (h : Still before middle) (h' : Still middle after) : Still before after :=
  ⟨h.alike.trans h'.alike, h.shown.trans h'.shown⟩

/-- Then only the own state changes, apart from the windows. -/
lemma thenRest (h : Still before middle) (hw : after.windows = middle.windows)
    (hj : after.journal = middle.journal) (ht : after.toolkit = middle.toolkit) :
    Still before after := by
  refine h.trans ⟨?_, .of_eq hj ht⟩
  rw [hw]
  exact .refl _

/-- Then records change where it cannot be seen. -/
lemma thenWindows (h : Still before after) {table : WindowTable}
    (ha : after.windows.Alike table) : Still before { after with windows := table } :=
  h.trans ⟨ha, .of_eq rfl rfl⟩

/-- Then something is asked of the toolkit that cannot be seen. -/
lemma thenNote (h : Still before after) {record : Record} {toolkit : T}
    (hl : record.Leads after.toolkit toolkit) (hv : record.isVisible = false) :
    Still before ({ after with toolkit := toolkit }.note record) :=
  h.trans ⟨.refl _, .of_invisible rfl hl hv⟩

/-- Then a command is given that cannot be seen. -/
lemma thenPerform (h : Still before after) (command : Command)
    (hv : (Record.command command).isVisible = false) : Still before (after.perform command) :=
  h.thenNote rfl hv

/-- Then wirings are made. -/
lemma thenListen (h : Still before after) (wirings : List Wiring) :
    Still before (after.listenAll wirings) := by
  refine h.trans ⟨?_, .listenAll after wirings⟩
  rw [(OnlyOutside.listenAll after wirings).windows_eq]
  exact .refl _

/-- Retiring a handle does not touch the windows. -/
lemma retire (server : Server T) (handle : Handle) : Still server (server.retire handle) := by
  refine ⟨?_, .retire server handle⟩
  rw [(OnlyOutside.retire server handle).windows_eq]
  exact .refl _

/-! ## Windows -/

/-- A commit changes the geometry in a record, which does not show. -/
lemma handleCommit (server : Server T) (id : WindowId) (initial : Bool) :
    Still server (server.handleCommit id initial) := by
  unfold Server.handleCommit
  split
  · exact refl server
  · rename_i window _
    have hasked : Still server
        (if initial then server.perform (.scheduleConfigure window.toplevel) else server) := by
      split
      · exact (refl server).thenPerform _ rfl
      · exact refl server
    exact hasked.thenWindows (.update _ _ fun _ => rfl)

/-! ## The pointer -/

/-- A window that is placed looks as before, but for its place. -/
lemma placeWindow (server : Server T) (id : WindowId) (scene : Handle)
    (position : Point Coordinate) : Still server (server.placeWindow id scene position) := by
  have hplaced : server.windows.Alike
      (server.windows.update id fun found => { found with position }) :=
    .update _ _ fun _ => rfl
  exact ((refl server).thenWindows hplaced).thenPerform _ rfl

/-- Motion places a window at most, or is passed on. -/
lemma processMotion (server : Server T) (time : UInt32) :
    Still server (server.processMotion time).server := by
  unfold Server.processMotion
  split
  · unfold Server.processMove
    split
    · exact (refl server).thenRest rfl rfl rfl
    · exact placeWindow server _ _ _
  · unfold Server.processResize
    split
    · exact (refl server).thenRest rfl rfl rfl
    · dsimp only
      split
      · exact refl server
      · exact (placeWindow server _ _ _).thenPerform _ rfl
  · unfold Server.processPassThrough
    dsimp only
    have hshown (hit : Option SurfaceHit) : Still server (server.showDefaultCursor hit) := by
      unfold Server.showDefaultCursor
      split
      · exact refl server
      · exact (refl server).thenPerform _ rfl
    split
    · exact ((hshown _).thenPerform _ rfl).thenPerform _ rfl
    · exact (hshown _).thenPerform _ rfl

/-- A request changes the grab at most. -/
lemma beginInteractive (server : Server T) (id : WindowId) (mode : GrabMode) (edges : Edges) :
    Still server (server.beginInteractive id mode edges).server := by
  unfold Server.beginInteractive
  split
  · exact refl server
  · exact refl server
  · exact (refl server).thenRest rfl rfl rfl

/-- At most the cursor is set. -/
lemma handleSetCursorRequest (server : Server T) (client : Handle) (surface : Option Handle)
    (hotspot : Point Int32) :
    Still server (server.handleSetCursorRequest client surface hotspot) := by
  unfold Server.handleSetCursorRequest
  split
  · exact (refl server).thenPerform _ rfl
  · exact refl server

/-! ## Devices and outputs -/

/-- A new device has nothing to do with windows. -/
lemma handleNewInput (server : Server T) (device : Handle) (kind : DeviceKind) :
    Still server (server.handleNewInput device kind) := by
  have hrevived : Still server (server.revive device) := (refl server).thenRest rfl rfl rfl
  cases kind with
  | keyboard =>
    have hconfigured (rate delay : Int32) : Still server ((server.revive device).perform
        (.configureKeyboard device rate delay)) := hrevived.thenPerform _ rfl
    have hattached : Still server ((server.revive device).attachKeyboard device) := by
      have hlistening := fun rate delay =>
        (hconfigured rate delay).thenListen (keyboardWiring device)
      have hactive := fun rate delay =>
        (hlistening rate delay).thenPerform (.setSeatKeyboard device) rfl
      exact (hactive _ _).thenRest rfl rfl rfl
    exact hattached.thenPerform _ rfl
  | pointer => exact (hrevived.thenPerform _ rfl).thenPerform _ rfl
  | touch => exact hrevived.thenPerform _ rfl
  | tabletTool => exact hrevived.thenPerform _ rfl
  | tabletPad => exact hrevived.thenPerform _ rfl
  | switch => exact hrevived.thenPerform _ rfl

/-- A new output has nothing to do with windows. -/
lemma handleNewOutput (server : Server T) (output : Handle) :
    Still server (server.handleNewOutput output) := by
  have hrevived : Still server (server.revive output) := (refl server).thenRest rfl rfl rfl
  have hprepared : Still server ((server.revive output).perform (.initOutputRender output)) :=
    hrevived.thenPerform _ rfl
  have hcommitted (configuration : OutputConfiguration) :
      Still server (((server.revive output).perform (.initOutputRender output)).commitOutput output
        configuration) := hprepared.thenNote rfl rfl
  have hlistening := fun configuration =>
    (hcommitted configuration).thenListen (outputWiring output)
  have hplaced := fun configuration =>
    (hlistening configuration).thenPerform (.addOutputToLayout output) rfl
  exact (hplaced _).thenRest rfl rfl rfl

/-- A keyboard that goes has nothing to do with windows. -/
lemma detachKeyboard (server : Server T) (device : Handle) :
    Still server (server.detachKeyboard device) := by
  have hforgotten : Still server { server with
      keyboards := server.keyboards.filter fun other => other ≠ device } :=
    (refl server).thenRest rfl rfl rfl
  exact hforgotten.thenPerform _ rfl

/-! ## Handlers -/

/-- A still handler changes nothing that can be seen, whatever the event and whether or not it ends
by a fault. -/
theorem run (server : Server T) {handler : Handler} (h : handler.isStill = true) (event : Event) :
    Still server (handler.run event server).server := by
  unfold Handler.run
  split
  any_goals exact refl server
  any_goals cases h
  · exact handleNewOutput server _
  · exact handleNewInput server _ _
  · exact Still.trans ((refl server).thenPerform _ rfl) (processMotion _ _)
  · exact Still.trans ((refl server).thenPerform _ rfl) (processMotion _ _)
  · exact (refl server).thenPerform _ rfl
  · exact (refl server).thenPerform _ rfl
  · exact handleSetCursorRequest server _ _ _
  · exact handleCommit server _ _
  · exact beginInteractive server _ _ _
  · exact beginInteractive server _ _ _
  · exact (refl server).thenPerform _ rfl
  · exact (refl server).thenPerform _ rfl
  · exact (refl server).thenNote rfl rfl
  · exact (refl server).thenRest rfl rfl rfl
  · exact ((refl server).thenPerform _ rfl).thenPerform _ rfl
  · exact detachKeyboard server _
  · exact (refl server).thenNote rfl rfl

/-! ## Creation and start -/

/-- What a new server was asked and asks for cannot be seen. -/
lemma of_create {toolkit : T} {config : Config} {display : Option String}
    (h : create toolkit config display = .ok server) :
    ∃ bindings, Still (unwired toolkit config bindings display) server := by
  unfold create at h
  split at h
  · cases h
  · rename_i bindings _
    dsimp only at h
    split at h <;> rename_i hwired
    · cases h
      have hthemed := (refl (unwired toolkit config bindings display)).thenPerform
        (.loadCursorTheme config.cursor.theme config.cursor.size) rfl
      refine ⟨bindings, hthemed.trans ⟨?_, .wireAll hwired⟩⟩
      rw [(Wired.wireAll hwired).onlyOutside.windows_eq]
      exact .refl _
    · cases h

/-- A start changes no window and puts no question to the toolkit that shows. -/
lemma start (server : Server T) (host : Host) : Still server (server.start host).server := by
  have hopened : Still server server.openSocket.2 := (refl server).thenNote rfl rfl
  have hstarted : Still server server.openSocket.2.startBackend.2 := hopened.thenNote rfl rfl
  obtain ⟨asked, hasked, socket, running, display, hstart⟩ := server.start_server host
  rw [hstart]
  obtain rfl | rfl := hasked
  · exact hopened.thenRest rfl rfl rfl
  · exact hstarted.thenRest rfl rfl rfl

end Still

/-- A new server has no windows. -/
lemma face?_of_create {toolkit : T} {config : Config} {display : Option String}
    (h : create toolkit config display = .ok server) (id : WindowId) :
    server.windows.face? id = none := by
  obtain ⟨bindings, hstill⟩ := Still.of_create h
  rw [hstill.alike.face?_eq]
  rfl

end Server

end Compositor
