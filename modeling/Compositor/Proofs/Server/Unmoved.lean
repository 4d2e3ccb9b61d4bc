import Compositor.Proofs.Server.Elements
import Compositor.Proofs.Server.Holding

set_option autoImplicit false

/-!
# Steps that move no window

A window is placed by motion that drives a grab, and by nothing else. All other handlers and calls
leave the recorded positions as they are, and ask for no place of a scene node and for no size of a
toplevel. This module says so once for all of them, so that what a drag comes to depends on the
motions alone.

## Main definitions

* `Record.isIdle` — entries that are about neither places nor sizes.
* `Server.PositionsKept` — the windows, but for some, are where they were.
* `Server.Unmoved` — nothing was placed or given a size.

## Main results

* `Server.Unmoved.run` — handlers other than motion move no window.
* `Server.Moment.unmoved` — so do all moments at which the cursor's place is not applied.
-/

namespace Compositor

/-- Whether an entry neither puts a scene node somewhere nor asks a toplevel for a size. -/
def Record.isIdle : Record → Bool
  | command (.setScenePosition _ _) => false
  | command (.setToplevelSize _ _ _) => false
  | _ => true

namespace Server

variable {T : Type}

/-- Windows that were there before are where they were, but for those in `moved`. Numbers are not
used again, so that a window is told by its number. -/
structure PositionsKept (moved : WindowId → Prop) (before after : Server T) : Prop where
  /-- Numbers are used up. -/
  nextWindow_le : before.nextWindow ≤ after.nextWindow
  /-- A record with an old number was there, with the same position. -/
  kept {id : WindowId} {window : Window} : ¬ moved id → id.number < before.nextWindow →
    after.windows.get? id = some window →
    ∃ old, before.windows.get? id = some old ∧ old.position = window.position

namespace PositionsKept

variable {moved : WindowId → Prop} {before middle after : Server T}

/-- Windows that are the same are where they were. -/
lemma of_eq (hn : after.nextWindow = before.nextWindow) (hw : after.windows = before.windows) :
    PositionsKept moved before after where
  nextWindow_le := Nat.le_of_eq hn.symm
  kept _ _ h := ⟨_, by rwa [← hw], rfl⟩

/-- Doing nothing moves no window. -/
lemma refl (server : Server T) : PositionsKept moved server server := of_eq rfl rfl

/-- Windows that are kept twice where they were are kept. -/
lemma trans (h : PositionsKept moved before middle) (h' : PositionsKept moved middle after) :
    PositionsKept moved before after where
  nextWindow_le := Nat.le_trans h.nextWindow_le h'.nextWindow_le
  kept hid hlt hw := by
    obtain ⟨between, hb, hposition⟩ := h'.kept hid (Nat.lt_of_lt_of_le hlt h.nextWindow_le) hw
    obtain ⟨old, ho, hp⟩ := h.kept hid hlt hb
    exact ⟨old, ho, hp.trans hposition⟩

/-- More windows may be excepted. -/
lemma mono {more : WindowId → Prop} (h : PositionsKept moved before after)
    (hm : ∀ id, moved id → more id) : PositionsKept more before after where
  nextWindow_le := h.nextWindow_le
  kept hid hlt hw := h.kept (fun hmoved => hid (hm _ hmoved)) hlt hw

/-- The position of a window before and after. -/
lemma position_eq (h : PositionsKept moved before after) {id : WindowId} {old window : Window}
    (o : Orderly before) (hid : ¬ moved id) (ho : before.windows.get? id = some old)
    (hw : after.windows.get? id = some window) : window.position = old.position := by
  obtain ⟨found, hf, hp⟩ := h.kept hid (o.lt_nextWindow ho) hw
  rw [ho] at hf
  cases hf
  exact hp.symm

end PositionsKept

/-- No window was moved, and nothing was placed or given a size. -/
structure Unmoved (before after : Server T) : Prop extends
    PositionsKept (fun _ => False) before after where
  /-- What went into the journal. -/
  noted : Noted (fun record => record.isIdle = true) before after

namespace Unmoved

variable {before middle after : Server T}

/-- Doing nothing moves no window and asks for nothing. -/
lemma refl (server : Server T) : Unmoved server server := ⟨.refl _, .refl _⟩

/-- Steps in turn move no window if none of them does. -/
lemma trans (h : Unmoved before middle) (h' : Unmoved middle after) : Unmoved before after :=
  ⟨h.toPositionsKept.trans h'.toPositionsKept, h.noted.trans h'.noted⟩

/-- What happens outside moves no window. -/
lemma of_onlyOutside (h : OnlyOutside before after)
    (hn : Noted (fun record => record.isIdle = true) before after) : Unmoved before after :=
  ⟨.of_eq h.nextWindow_eq h.windows_eq, hn⟩

/-- Then only the own state changes, apart from the windows. -/
lemma thenRest (h : Unmoved before middle) (hn : after.nextWindow = middle.nextWindow)
    (hw : after.windows = middle.windows) (hj : after.journal = middle.journal) :
    Unmoved before after :=
  h.trans ⟨.of_eq hn hw, .of_eq hj⟩

/-- Then records change or are dropped, but not moved. -/
lemma thenWindows (h : Unmoved before after) {table : WindowTable}
    (hp : after.windows.PlacesKept table) : Unmoved before { after with windows := table } := by
  refine h.trans ⟨⟨Nat.le_refl _, fun _ _ hw => ?_⟩, .of_eq rfl⟩
  obtain ⟨old, ho, -, hposition⟩ := hp _ _ hw
  exact ⟨old, ho, hposition⟩

/-- Then something is asked that is about neither places nor sizes. -/
lemma thenNote (h : Unmoved before after) {record : Record} {toolkit : T}
    (hi : record.isIdle = true) :
    Unmoved before ({ after with toolkit := toolkit }.note record) :=
  h.trans ⟨.of_eq rfl rfl, .of_cons rfl hi⟩

/-- A window appears. -/
lemma addWindow (server : Server T) [Toolkit T] (toplevel surface scene : Handle) :
    Unmoved server (server.addWindow toplevel surface scene).2 := by
  refine ⟨⟨Nat.le_succ _, fun {id window} _ hlt hw => ?_⟩, .of_eq rfl⟩
  -- the new window has the next number
  have hne : id ≠ ⟨server.nextWindow⟩ := by
    rintro rfl
    exact Nat.lt_irrefl _ hlt
  refine ⟨window, ?_, rfl⟩
  rw [← hw]
  exact ((WindowTable.get?_insert _ _ _).trans (if_neg hne)).symm

/-- Taking a mark back moves no window. -/
lemma revive (server : Server T) (handle : Handle) : Unmoved server (server.revive handle) :=
  (refl server).thenRest rfl rfl rfl

/-- An unmapped window keeps its position. -/
lemma handleUnmap (server : Server T) (id : WindowId) :
    Unmoved server (server.handleUnmap id) := by
  have hmarked : server.windows.PlacesKept
      (server.windows.update id fun found => { found with mapped := false }) :=
    .update _ _ (fun _ => rfl) fun _ => rfl
  have hunmapped := hmarked.trans (.of_get?_eq (WindowTable.get?_unstack _ id))
  exact ((refl server).thenWindows hunmapped).thenRest rfl rfl rfl

variable [Toolkit T]

/-- Then a command is given that is about neither places nor sizes. -/
lemma thenPerform (h : Unmoved before after) (command : Command)
    (hi : (Record.command command).isIdle = true) : Unmoved before (after.perform command) :=
  h.thenNote hi

/-! ## Listeners -/

/-- A registration moves no window. -/
lemma register (server : Server T) (handle : Handle) (signal : Signal)
    (callback : Callback Handler) :
    Unmoved server (server.register handle signal callback).2 := by
  refine of_onlyOutside (.register server handle signal callback) ?_
  unfold Server.register
  split
  · exact .refl server
  · split
    · exact .of_eq rfl
    · exact .of_cons rfl rfl

/-- Then wirings are made. -/
lemma thenListen (h : Unmoved before after) (wirings : List Wiring) :
    Unmoved before (after.listenAll wirings) := by
  induction wirings generalizing after with
  | nil => exact h
  | cons wiring rest ih => exact ih (h.trans (register _ _ _ _))

/-- Releasing a handle moves no window. -/
lemma unregisterAll (server : Server T) (handle : Handle) :
    Unmoved server (server.unregisterAll handle).2 := by
  refine of_onlyOutside (.unregisterAll server handle) ((Noted.unregisterAll server handle).mono ?_)
  rintro _ ⟨token, rfl⟩
  rfl

/-- Retiring a handle moves no window. -/
lemma retire (server : Server T) (handle : Handle) : Unmoved server (server.retire handle) := by
  refine of_onlyOutside (.retire server handle) ((Noted.retire server handle).mono ?_)
  rintro _ ⟨token, rfl⟩
  rfl

/-- Removing a subscriber moves no window. -/
lemma unsubscribe (server : Server T) (id : SubscriptionId) :
    Unmoved server (server.unsubscribe id).2 := by
  refine of_onlyOutside (.unsubscribe server id) ?_
  unfold Server.unsubscribe
  split
  · exact .refl server
  · exact .of_eq rfl
  · exact .of_cons rfl rfl

/-! ## Focus -/

/-- A window that gets the focus is raised, but not moved. -/
lemma focusWindow (server : Server T) (id : WindowId) (surface : Handle) :
    Unmoved server (server.focusWindow id surface) := by
  unfold Server.focusWindow
  dsimp only
  split
  · exact refl server
  · split
    · exact refl server
    · rename_i window _
      have htold : Unmoved server (server.deactivatePrevious
          (Toolkit.keyboardFocus server.toolkit) window.toplevel) := by
        unfold Server.deactivatePrevious
        split
        · split
          · exact refl server
          · exact (refl server).thenPerform _ rfl
        · exact refl server
      have hraised := htold.thenPerform (.raiseToTop window.scene) rfl
      have hmoved := hraised.thenWindows (.of_get?_eq (WindowTable.get?_moveToFront _ id))
      exact (hmoved.thenPerform _ rfl).thenPerform _ rfl

/-- Cycling raises a window at most. -/
lemma cycleFocus (server : Server T) : Unmoved server server.cycleFocus := by
  unfold Server.cycleFocus
  split
  · exact refl server
  · split
    · exact refl server
    · exact focusWindow _ _ _

/-! ## Windows -/

/-- A new window has a new number, so the others stay. -/
lemma handleNewToplevel (server : Server T) (toplevel surface : Handle) :
    Unmoved server (server.handleNewToplevel toplevel surface) := by
  have hrevived : Unmoved server ((server.revive toplevel).revive surface) :=
    (revive server toplevel).trans (revive _ surface)
  have hcreated : Unmoved server
      (((server.revive toplevel).revive surface).createToplevelScene toplevel).2 :=
    hrevived.thenNote rfl
  exact (hcreated.trans (addWindow _ _ _ _)).thenListen _

/-- A mapped window keeps its position, and then gets the focus. -/
lemma handleMap (server : Server T) (id : WindowId) : Unmoved server (server.handleMap id) := by
  unfold Server.handleMap
  split
  · exact refl server
  · have hmarked : server.windows.PlacesKept
        (server.windows.update id fun found => { found with mapped := true }) :=
      .update _ _ (fun _ => rfl) fun _ => rfl
    have hmapped := hmarked.trans (.of_get?_eq (WindowTable.get?_push _ id))
    exact ((refl server).thenWindows hmapped).trans (focusWindow _ _ _)

/-- A commit changes no position. -/
lemma handleCommit (server : Server T) (id : WindowId) (initial : Bool) :
    Unmoved server (server.handleCommit id initial) := by
  unfold Server.handleCommit
  split
  · exact refl server
  · rename_i window _
    have hasked : Unmoved server
        (if initial then server.perform (.scheduleConfigure window.toplevel) else server) := by
      split
      · exact (refl server).thenPerform _ rfl
      · exact refl server
    exact hasked.thenWindows (.update _ _ (fun _ => rfl) fun _ => rfl)

/-- A destroyed window leaves the others where they were. -/
lemma handleToplevelDestroyed (server : Server T) (id : WindowId) :
    Unmoved server (server.handleToplevelDestroyed id) := by
  have hdropped : Unmoved server
      { server.releaseGrab id with windows := server.windows.destroy id } :=
    ((refl server).thenWindows (.destroy _ id)).thenRest rfl rfl rfl
  unfold Server.handleToplevelDestroyed
  dsimp only
  split
  · exact hdropped
  · exact hdropped.trans (unregisterAll _ _)

/-- A popup has no record. -/
lemma handleNewPopup (server : Server T) (popup : Handle) (parent : Option Handle) :
    Unmoved server (server.handleNewPopup popup parent).server := by
  cases parent with
  | none => exact refl server
  | some parent =>
    have hcreated : Unmoved server ((server.revive popup).createPopupScene popup parent) :=
      (revive server popup).thenNote rfl
    exact hcreated.thenListen _

/-! ## The pointer -/

/-- A press may raise a window, but moves none. -/
lemma handleButton (server : Server T) (time button : UInt32) (state : Press) :
    Unmoved server (server.handleButton time button state) := by
  have hforwarded : Unmoved server (server.perform (.pointerButton time button state)) :=
    (refl server).thenPerform _ rfl
  cases state with
  | released => exact hforwarded.thenRest rfl rfl rfl
  | pressed =>
    unfold Server.handleButton Server.focusUnderCursor
    dsimp only
    split
    · exact hforwarded
    · split
      · exact hforwarded
      · exact hforwarded.trans (focusWindow _ _ _)

/-- A request changes the grab at most. -/
lemma beginInteractive (server : Server T) (id : WindowId) (mode : GrabMode) (edges : Edges) :
    Unmoved server (server.beginInteractive id mode edges).server := by
  unfold Server.beginInteractive
  split
  · exact refl server
  · exact refl server
  · exact (refl server).thenRest rfl rfl rfl

/-- At most the cursor is set. -/
lemma handleSetCursorRequest (server : Server T) (client : Handle) (surface : Option Handle)
    (hotspot : Point Int32) :
    Unmoved server (server.handleSetCursorRequest client surface hotspot) := by
  unfold Server.handleSetCursorRequest
  split
  · exact (refl server).thenPerform _ rfl
  · exact refl server

/-! ## Devices and outputs -/

/-- To terminate moves no window. -/
lemma terminate (server : Server T) : Unmoved server server.terminate :=
  ((refl server).thenPerform .terminate rfl).thenRest rfl rfl rfl

/-- A key moves no window, whatever it is bound to. -/
lemma handleKey (server : Server T) (device : Handle) (time keycode : UInt32) (state : Press) :
    Unmoved server (server.handleKey device time keycode state) := by
  unfold Server.handleKey
  split
  · rename_i action _
    cases action with
    | terminate => exact terminate server
    | cycleFocus => exact cycleFocus server
  · exact ((refl server).thenPerform _ rfl).thenPerform _ rfl

/-- A new device moves no window. -/
lemma handleNewInput (server : Server T) (device : Handle) (kind : DeviceKind) :
    Unmoved server (server.handleNewInput device kind) := by
  have hrevived : Unmoved server (server.revive device) := revive server device
  cases kind with
  | keyboard =>
    let keyboard := (server.revive device).config.keyboard
    have hconfigured := hrevived.thenPerform
      (.configureKeyboard device keyboard.repeatRate keyboard.repeatDelay) rfl
    have hactive := (hconfigured.thenListen (keyboardWiring device)).thenPerform
      (.setSeatKeyboard device) rfl
    have hattached : Unmoved server ((server.revive device).attachKeyboard device) :=
      hactive.thenRest rfl rfl rfl
    exact hattached.thenPerform _ rfl
  | pointer => exact (hrevived.thenPerform _ rfl).thenPerform _ rfl
  | _ => exact hrevived.thenPerform _ rfl

/-- A new output moves no window. -/
lemma handleNewOutput (server : Server T) (output : Handle) :
    Unmoved server (server.handleNewOutput output) := by
  let prepared := (server.revive output).perform (.initOutputRender output)
  let configuration := OutputConfiguration.mk true (Toolkit.preferredMode prepared.toolkit output)
  have hprepared : Unmoved server prepared := (revive server output).thenPerform _ rfl
  have hcommitted : Unmoved server (prepared.commitOutput output configuration) :=
    hprepared.thenNote rfl
  have hplaced := (hcommitted.thenListen (outputWiring output)).thenPerform
    (.addOutputToLayout output) rfl
  exact hplaced.thenRest rfl rfl rfl

/-- A keyboard that goes moves no window. -/
lemma detachKeyboard (server : Server T) (device : Handle) :
    Unmoved server (server.detachKeyboard device) := by
  have hforgotten : Unmoved server { server with
      keyboards := server.keyboards.filter fun other => other ≠ device } :=
    (refl server).thenRest rfl rfl rfl
  exact hforgotten.thenPerform _ rfl

/-! ## Handlers and calls -/

/-- **A handler that does not apply the cursor's place moves no window**, whatever the event and
whether or not it ends by a fault. -/
theorem run (server : Server T) (handler : Handler) (event : Event)
    (h : handler.pointed? server event = none) :
    Unmoved server (handler.run event server).server := by
  unfold Handler.run
  split
  any_goals exact refl server
  any_goals cases h
  · exact handleNewOutput server _
  · exact handleNewInput server _ _
  · exact handleNewToplevel server _ _
  · exact handleNewPopup server _ _
  · exact handleButton server _ _ _
  · exact (refl server).thenPerform _ rfl
  · exact (refl server).thenPerform _ rfl
  · exact handleSetCursorRequest server _ _ _
  · exact handleMap server _
  · exact handleUnmap server _
  · exact handleCommit server _ _
  · exact handleToplevelDestroyed server _
  · exact beginInteractive server _ _ _
  · exact beginInteractive server _ _ _
  · exact (refl server).thenPerform _ rfl
  · exact (refl server).thenPerform _ rfl
  · exact (refl server).thenNote rfl
  · exact (refl server).thenRest rfl rfl rfl
  · exact ((refl server).thenPerform _ rfl).thenPerform _ rfl
  · exact handleKey server _ _ _ _
  · exact detachKeyboard server _
  · exact (refl server).thenNote rfl

/-- A start moves no window. -/
lemma start (server : Server T) (host : Host) : Unmoved server (server.start host).server := by
  have hopened : Unmoved server server.openSocket.2 := (refl server).thenNote rfl
  have hstarted : Unmoved server server.openSocket.2.startBackend.2 := hopened.thenNote rfl
  obtain ⟨asked, hasked, socket, running, display, hstart⟩ := server.start_server host
  rw [hstart]
  obtain rfl | rfl := hasked
  · exact hopened.thenRest rfl rfl rfl
  · exact hstarted.thenRest rfl rfl rfl

end Unmoved

variable [Toolkit T]

/-- **Moments at which the cursor's place is not applied move no window**, short of a shutdown. -/
theorem Moment.unmoved (moment : Moment T) (hp : moment.pointed? = none)
    (he : moment.endsGrab = false) : Unmoved moment.server moment.after := by
  obtain ⟨server, deed⟩ := moment
  cases deed with
  | dispatch handle signal event => exact .refl server
  | callback event callback =>
    cases callback with
    | retire handle => exact .retire server handle
    | run handler => exact .run server handler event hp
  | call call direct =>
    cases call with
    | emit handle signal event => cases direct
    | emitNative token event => cases direct
    | run emissions => cases direct
    | start host => exact .start server host
    | terminate => exact .terminate server
    | shutdown => cases he
    | cycleFocus => exact .cycleFocus server
    | focusWindow id surface => exact .focusWindow server id surface
    | beginInteractive id mode edges => exact .beginInteractive server id mode edges
    | processMotion time => cases hp
    | observe handle signal label => exact .register server handle signal _
    | track handle signal => exact .register server handle signal _
    | unregisterAll handle => exact .unregisterAll server handle
    | unsubscribe id => exact .unsubscribe server id
    | revive handle => exact .revive server handle

end Server

end Compositor
