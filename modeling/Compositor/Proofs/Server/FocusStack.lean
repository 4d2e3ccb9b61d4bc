import Compositor.Headless
import Compositor.Proofs.Server.Outside
import Compositor.Proofs.Server.Reachable
import Compositor.Proofs.Windows.Agreement

set_option autoImplicit false

/-!
# The focus stack of a server

The records of a server and its focus stack agree in every state that it can reach, whatever its
toolkit answers: after repeated maps and unmaps, after late events for windows that were destroyed,
after faults, and within dispatches.

## Main definitions

* `Server.Orderly` — records and stack agree, and the next window's number is not used yet.

## Main results

* `Server.Orderly.run` — every handler keeps this.
* `Server.Orderly.call` — every call keeps this.
* `Server.focusStack_agrees` — it holds in every reachable state.
-/

namespace Compositor.Server

variable {T : Type}

/-- Records and focus stack agree, and the number of the next window is not used yet. -/
structure Orderly (server : Server T) : Prop where
  /-- Records and focus stack agree. -/
  agrees : server.windows.Agrees
  /-- The numbers of records are used up. -/
  lt_nextWindow {id : WindowId} {window : Window} :
    server.windows.get? id = some window → id.number < server.nextWindow

namespace Orderly

variable {before after server : Server T}

/-- Only the windows and the number of the next one matter. -/
lemma congr (o : Orderly before) (hw : after.windows = before.windows)
    (hn : after.nextWindow = before.nextWindow) : Orderly after := by
  constructor
  · rw [hw]
    exact o.agrees
  · rw [hw, hn]
    exact o.lt_nextWindow

/-- What happens outside does not matter. -/
lemma onlyOutside (o : Orderly before) (h : OnlyOutside before after) : Orderly after :=
  o.congr h.windows_eq h.nextWindow_eq

/-- Windows that are changed or dropped leave the numbers used up. -/
lemma windows (o : Orderly server) {table : WindowTable} (ha : table.Agrees)
    (hsub : ∀ id window, table.get? id = some window → ∃ old, server.windows.get? id = some old) :
    Orderly { server with windows := table } where
  agrees := ha
  lt_nextWindow {id window} h := by
    obtain ⟨old, ho⟩ := hsub id window h
    exact o.lt_nextWindow ho

/-- Changing a record adds none. -/
lemma exists_of_get?_update {table : WindowTable} {id other : WindowId} {change : Window → Window}
    {window : Window} (h : (table.update id change).get? other = some window) :
    ∃ old, table.get? other = some old := by
  rw [WindowTable.get?_update] at h
  split at h <;> rename_i ho
  · obtain ⟨old, hold, -⟩ := Option.map_eq_some_iff.1 h
    exact ⟨old, ho ▸ hold⟩
  · exact ⟨window, h⟩

/-- A change of a record that keeps its number and flag. -/
lemma update (o : Orderly server) (id : WindowId) {change : Window → Window}
    (hid : ∀ window, (change window).id = window.id)
    (hmapped : ∀ window, (change window).mapped = window.mapped) :
    Orderly { server with windows := server.windows.update id change } :=
  o.windows (o.agrees.update id hid hmapped) fun _ _ => exists_of_get?_update

/-- An unmapped window loses its flag and its place together. -/
lemma handleUnmap (o : Orderly server) (id : WindowId) : Orderly (server.handleUnmap id) := by
  refine (o.windows (o.agrees.unmap id) fun other found h => ?_).congr rfl rfl
  rw [WindowTable.get?_unstack] at h
  exact exists_of_get?_update h

variable [Toolkit T]

/-- A command does not touch the windows. -/
lemma perform (o : Orderly server) (command : Command) : Orderly (server.perform command) :=
  o.onlyOutside (.perform server command)

/-- Subscriptions do not touch the windows. -/
lemma listenAll (o : Orderly server) (wirings : List Wiring) : Orderly (server.listenAll wirings) :=
  o.onlyOutside (.listenAll server wirings)

/-! ## Windows -/

/-- A new window gets a number that is not used. -/
lemma addWindow (o : Orderly server) (toplevel surface scene : Handle) :
    Orderly (server.addWindow toplevel surface scene).2 where
  agrees := by
    refine o.agrees.insert ?_ rfl
    cases hw : server.windows.get? ⟨server.nextWindow⟩ with
    | none => exact hw
    | some window => exact absurd (o.lt_nextWindow hw) (Nat.lt_irrefl _)
  lt_nextWindow {id window} h := by
    unfold Server.addWindow at h
    dsimp only at h
    rw [WindowTable.get?_insert] at h
    split at h <;> rename_i hi
    · rw [hi]
      exact Nat.lt_succ_self _
    · exact Nat.lt_succ_of_lt (o.lt_nextWindow h)

/-- The window of a new toplevel is neither mapped nor stacked. -/
lemma handleNewToplevel (o : Orderly server) (toplevel surface : Handle) :
    Orderly (server.handleNewToplevel toplevel surface) := by
  have hcreated : Orderly (((server.revive toplevel).revive surface).createToplevelScene
      toplevel).2 := o.congr rfl rfl
  exact (hcreated.addWindow toplevel surface _).listenAll _

/-- The window that gets the focus moves to the front, if it is stacked. -/
lemma focusWindow (o : Orderly server) (id : WindowId) (surface : Handle) :
    Orderly (server.focusWindow id surface) := by
  unfold Server.focusWindow
  dsimp only
  split
  · exact o
  · split
    · exact o
    · rename_i window _
      have hraised := (OnlyOutside.deactivatePrevious server
        (Toolkit.keyboardFocus server.toolkit) window.toplevel).trans
          (.perform _ (.raiseToTop window.scene))
      have horderly := o.onlyOutside hraised
      refine (horderly.windows (horderly.agrees.moveToFront id) fun other window h => ?_).congr
        rfl rfl
      exact ⟨window, by rwa [WindowTable.get?_moveToFront] at h⟩

/-- Cycling gives the focus to a stacked window, if to any. -/
lemma cycleFocus (o : Orderly server) : Orderly server.cycleFocus := by
  unfold Server.cycleFocus
  split
  · exact o
  · split
    · exact o
    · exact o.focusWindow _ _

/-- A commit changes only the geometry in a record. -/
lemma handleCommit (o : Orderly server) (id : WindowId) (initial : Bool) :
    Orderly (server.handleCommit id initial) := by
  unfold Server.handleCommit
  split
  · exact o
  · have hasked (object : Handle) : Orderly
        (if initial then server.perform (.scheduleConfigure object) else server) := by
      split
      · exact o.congr rfl rfl
      · exact o
    exact (hasked _).update id (fun _ => rfl) fun _ => rfl

/-- A mapped window gets its flag and its place together, and then the focus. -/
lemma handleMap (o : Orderly server) (id : WindowId) : Orderly (server.handleMap id) := by
  unfold Server.handleMap
  split
  · exact o
  · rename_i window hw
    refine (o.windows (o.agrees.map hw) fun other found h => ?_).focusWindow _ _
    rw [WindowTable.get?_push] at h
    exact exists_of_get?_update h

/-- A destroyed window loses its record and its place together. -/
lemma handleToplevelDestroyed (o : Orderly server) (id : WindowId) :
    Orderly (server.handleToplevelDestroyed id) := by
  have hdestroyed : Orderly { server.releaseGrab id with
      windows := server.windows.destroy id } := by
    refine (o.windows (o.agrees.destroy id) fun other found h => ?_).congr rfl rfl
    rw [WindowTable.get?_destroy] at h
    split at h
    · cases h
    · exact ⟨found, h⟩
  unfold Server.handleToplevelDestroyed
  dsimp only
  split
  · exact hdestroyed
  · exact hdestroyed.onlyOutside (.unregisterAll _ _)

/-! ## The pointer -/

/-- Placing a window changes only its position in the record. -/
lemma placeWindow (o : Orderly server) (id : WindowId) (scene : Handle)
    (position : Point Coordinate) : Orderly (server.placeWindow id scene position) := by
  have hplaced : Orderly { server with
      windows := server.windows.update id fun found => { found with position } } :=
    o.update id (fun _ => rfl) fun _ => rfl
  exact hplaced.perform _

/-- Motion places a window at most. -/
lemma processMotion (o : Orderly server) (time : UInt32) :
    Orderly (server.processMotion time).server := by
  unfold Server.processMotion
  split
  · unfold Server.processMove
    split
    · exact o.congr rfl rfl
    · exact o.placeWindow _ _ _
  · unfold Server.processResize
    split
    · exact o.congr rfl rfl
    · dsimp only
      split
      · exact o
      · exact (o.placeWindow _ _ _).perform _
  · exact o.onlyOutside (.processPassThrough server time)

/-- A press may give the focus, and a release ends a grab. -/
lemma handleButton (o : Orderly server) (time button : UInt32) (state : Press) :
    Orderly (server.handleButton time button state) := by
  have hforwarded : Orderly (server.perform (.pointerButton time button state)) :=
    o.congr rfl rfl
  cases state with
  | released => exact o.congr rfl rfl
  | pressed =>
    unfold Server.handleButton Server.focusUnderCursor
    dsimp only
    split
    · exact hforwarded
    · split
      · exact hforwarded
      · exact hforwarded.focusWindow _ _

/-- A request for a grab does not touch the windows. -/
lemma beginInteractive (o : Orderly server) (id : WindowId) (mode : GrabMode) (edges : Edges) :
    Orderly (server.beginInteractive id mode edges).server := by
  unfold Server.beginInteractive
  split
  · exact o
  · exact o
  · exact o.congr rfl rfl

/-! ## Devices and outputs -/

/-- A new device does not touch the windows. -/
lemma handleNewInput (o : Orderly server) (device : Handle) (kind : DeviceKind) :
    Orderly (server.handleNewInput device kind) := by
  have hrevived : Orderly (server.revive device) := o.congr rfl rfl
  have hlistening : Orderly (((server.revive device).perform (.configureKeyboard device
      server.config.keyboard.repeatRate server.config.keyboard.repeatDelay)).listenAll
      (keyboardWiring device)) := (hrevived.perform _).listenAll _
  cases kind with
  | keyboard => exact hlistening.congr rfl rfl
  | pointer => exact o.congr rfl rfl
  | touch => exact o.congr rfl rfl
  | tabletTool => exact o.congr rfl rfl
  | tabletPad => exact o.congr rfl rfl
  | switch => exact o.congr rfl rfl

/-- A key may cycle the focus. -/
lemma handleKey (o : Orderly server) (device : Handle) (time keycode : UInt32) (state : Press) :
    Orderly (server.handleKey device time keycode state) := by
  unfold Server.handleKey
  split
  · rename_i action _
    cases action with
    | terminate => exact o.congr rfl rfl
    | cycleFocus => exact o.cycleFocus
  · exact o.congr rfl rfl

/-- A new output does not touch the windows. -/
lemma handleNewOutput (o : Orderly server) (output : Handle) :
    Orderly (server.handleNewOutput output) := by
  have hcommitted (configuration : OutputConfiguration) :
      Orderly (((server.revive output).perform (.initOutputRender output)).commitOutput output
        configuration) := o.congr rfl rfl
  have hlistening := fun configuration => (hcommitted configuration).listenAll (outputWiring output)
  exact (hlistening _).congr rfl rfl

/-! ## Handlers -/

/-- Every handler keeps the order, whatever the event and whether or not it ends by a fault. -/
theorem run (o : Orderly server) (handler : Handler) (event : Event) :
    Orderly (handler.run event server).server := by
  unfold Handler.run
  split
  any_goals exact o
  · exact o.handleNewOutput _
  · exact o.handleNewInput _ _
  · exact o.handleNewToplevel _ _
  · exact o.onlyOutside (.handleNewPopup server _ _)
  · exact (o.perform (.moveCursor _ _)).processMotion _
  · exact (o.perform (.warpCursor _ _)).processMotion _
  · exact o.handleButton _ _ _
  · exact o.congr rfl rfl
  · exact o.congr rfl rfl
  · exact o.onlyOutside (.handleSetCursorRequest server _ _ _)
  · exact o.handleMap _
  · exact o.handleUnmap _
  · exact o.handleCommit _ _
  · exact o.handleToplevelDestroyed _
  · exact o.beginInteractive _ _ _
  · exact o.beginInteractive _ _ _
  · exact o.congr rfl rfl
  · exact o.congr rfl rfl
  · exact o.onlyOutside (.handleRequestState server _ _)
  · exact o.congr rfl rfl
  · exact o.onlyOutside (.handleModifiers server _)
  · exact o.handleKey _ _ _ _
  · exact o.congr rfl rfl
  · exact o.congr rfl rfl

/-- A callback keeps records and stack in agreement: it retires a handle or runs a handler. -/
lemma runCallback (o : Orderly server) (event : Event) (callback : Callback Handler) :
    Orderly (server.runCallback event callback).server := by
  cases callback with
  | retire handle => exact o.onlyOutside (.retire server handle)
  | run handler => exact o.run handler event

/-! ## Calls -/

/-- Callbacks in turn keep records and stack in agreement, also if one ends by a fault. -/
lemma serve (o : Orderly server) (event : Event) (callbacks : List (Callback Handler)) :
    Orderly (server.serve event callbacks).server := by
  induction callbacks generalizing server with
  | nil => exact o
  | cons callback rest ih =>
    have hran := o.runCallback event callback
    unfold Server.serve
    dsimp only
    split
    · exact hran
    · exact ih hran

/-- A dispatch keeps records and stack in agreement. -/
lemma dispatch (o : Orderly server) (handle : Handle) (signal : Signal) (event : Event) :
    Orderly (server.dispatch handle signal event).server :=
  o.serve event _

/-- A native dispatch keeps records and stack in agreement. -/
lemma dispatchNative (o : Orderly server) (token : Token) (event : Event) :
    Orderly (server.dispatchNative token event).server := by
  unfold Server.dispatchNative
  split
  · exact o.dispatch _ _ event
  · exact o

/-- Events in turn keep records and stack in agreement. -/
lemma runEmissions (o : Orderly server) (emissions : List Emission) :
    Orderly (server.run emissions).server := by
  induction emissions generalizing server with
  | nil => exact o
  | cons emission rest ih =>
    have hdispatched := o.dispatch emission.handle emission.signal emission.event
    unfold Server.run
    dsimp only
    split
    · split
      · exact hdispatched
      · exact ih hdispatched
    · exact o

/-- A start does not touch the windows. -/
lemma start (o : Orderly server) (host : Host) : Orderly (server.start host).server := by
  obtain ⟨asked, rfl | rfl, socket, running, display, hstart⟩ := server.start_server host <;>
    rw [hstart] <;> exact o.congr rfl rfl

/-- After the end there are no windows to disagree about. -/
lemma shutdown (server : Server T) : Orderly server.shutdown := by
  have hw : server.shutdown.windows = WindowTable.empty :=
    (OnlyOutside.disconnectAll _ server.registry.clear.1).windows_eq
  constructor
  · rw [hw]
    exact .empty
  · intro id window h
    simp [hw] at h

/-- Every call keeps the order, whether or not it ends by a fault. -/
theorem call (o : Orderly server) (call : Call) : Orderly (server.call call).server := by
  cases call with
  | emit handle signal event => exact o.dispatch handle signal event
  | emitNative token event => exact o.dispatchNative token event
  | start host => exact o.start host
  | run emissions => exact o.runEmissions emissions
  | terminate => exact o.congr rfl rfl
  | shutdown => exact shutdown server
  | cycleFocus => exact o.cycleFocus
  | focusWindow id surface => exact o.focusWindow id surface
  | beginInteractive id mode edges => exact o.beginInteractive id mode edges
  | processMotion time => exact o.processMotion time
  | observe handle signal label => exact o.onlyOutside (.register server handle signal _)
  | track handle signal => exact o.onlyOutside (.register server handle signal _)
  | unregisterAll handle => exact o.onlyOutside (.unregisterAll server handle)
  | unsubscribe id => exact o.onlyOutside (.unsubscribe server id)
  | revive handle => exact o.onlyOutside (.revive server handle)

end Orderly

/-! ## Reachable states -/

section Reachable

variable [Toolkit T]

/-- A new server has no windows yet. -/
lemma orderly_of_create {toolkit : T} {config : Config} {display : Option String}
    {server : Server T} (h : create toolkit config display = .ok server) : Orderly server := by
  have hwire : ∀ (wirings : List Wiring) (before : Server T), Orderly before →
      ∀ after, before.wireAll wirings = .ok after → Orderly after := by
    intro wirings
    induction wirings with
    | nil =>
      intro before o after ha
      cases ha
      exact o
    | cons wiring rest ih =>
      intro before o after ha
      have hregister := OnlyOutside.register before wiring.handle wiring.signal wiring.callback
      unfold wireAll at ha
      split at ha <;> rename_i hr
      · rw [hr] at hregister
        exact ih _ (o.onlyOutside hregister) after ha
      · cases ha
  unfold create at h
  split at h
  · cases h
  · dsimp only at h
    split at h <;> rename_i hw
    · cases h
      refine hwire _ _ ?_ _ hw
      exact ⟨.empty, fun h => by simp [perform, note, unwired] at h⟩
    · cases h

/-- A reachable server is in order. -/
lemma Reachable.orderly {server : Server T} {servings : List Serving}
    (h : Reachable server servings) : Orderly server := by
  induction h with
  | create hc => exact orderly_of_create hc
  | call call _ ih => exact ih.call call
  | toolkit toolkit _ ih => exact ih.congr rfl rfl
  | enter handle signal event _ ih => exact ih
  | callback _ ih => exact ih.runCallback _ _
  | leave _ ih => exact ih

/-- **Records and focus stack agree.** In every state that a server can reach, also within a
dispatch, every record is stored under its own number, no window is stacked twice, and the stacked
windows are just those with a record that says that they are mapped.

**Proof sketch.** Induction on how the state was reached. Handlers and calls change the windows in
few ways: a record is added under a number that is not used, changed, mapped and stacked, unmapped
and unstacked, or dropped with its place; each keeps the agreement. Everything else they do happens
outside. -/
theorem focusStack_agrees {server : Server T} {servings : List Serving}
    (h : Reachable server servings) :
    (∀ id window, server.windows.get? id = some window → window.id = id) ∧
    server.windows.stack.Nodup ∧
    ∀ id, id ∈ server.windows.stack ↔
      ∃ window, server.windows.get? id = some window ∧ window.mapped = true := by
  have a := h.orderly.agrees
  exact ⟨fun _ _ => a.id_eq, a.stack_nodup, fun _ => a.mem_stack_iff⟩

end Reachable

/-- Calls in which three windows are created and mapped, one of them twice, and the first is
destroyed. -/
def comings : List Call :=
  [.emit ⟨0x20⟩ .newToplevel (.newToplevel ⟨0x50⟩ ⟨0x51⟩), .emit ⟨0x51⟩ .map .empty,
    .emit ⟨0x20⟩ .newToplevel (.newToplevel ⟨0x60⟩ ⟨0x61⟩), .emit ⟨0x61⟩ .map .empty,
    .emit ⟨0x20⟩ .newToplevel (.newToplevel ⟨0x70⟩ ⟨0x71⟩), .emit ⟨0x71⟩ .map .empty,
    .emit ⟨0x71⟩ .map .empty, .cycleFocus, .emit ⟨0x50⟩ .destroy .empty]

/-- After these calls the second window, to which the focus was cycled, is in front of the third. -/
theorem focusStack_agrees_comings :
    ∃ server : Server Headless, Reachable server [] ∧ server.windows.stack = [⟨2⟩, ⟨3⟩] ∧
      server.windows.stack.Nodup ∧
      (∃ window, server.windows.get? ⟨3⟩ = some window ∧ window.mapped = true) ∧
      ¬ ∃ window, server.windows.get? ⟨1⟩ = some window ∧ window.mapped = true := by
  have hstack : ((create Headless.standard Config.standard none).toOption.map fun server =>
      (server.callAll comings).windows.stack) = some [⟨2⟩, ⟨3⟩] := by decide +kernel
  cases hc : create Headless.standard Config.standard none with
  | error failure => simp [hc, Except.toOption] at hstack
  | ok server =>
    rw [hc] at hstack
    have hs : (server.callAll comings).windows.stack = [⟨2⟩, ⟨3⟩] := Option.some.inj hstack
    have hr : Reachable (server.callAll comings) [] := (Reachable.create hc).callAll comings
    obtain ⟨-, hnodup, hmem⟩ := focusStack_agrees hr
    refine ⟨_, hr, hs, hnodup, (hmem ⟨3⟩).1 ?_, fun hw => ?_⟩
    · rw [hs]
      decide
    · have hm := (hmem ⟨1⟩).2 hw
      rw [hs] at hm
      exact absurd hm (by decide)

end Compositor.Server
