import Compositor.Proofs.Server.Moments
import Compositor.Proofs.Server.Replay
import Compositor.Proofs.Server.Subscriptions

set_option autoImplicit false

/-!
# What a server does, in elementary steps

Handlers and calls are made up of few kinds of elementary steps: the toolkit is asked something,
listeners come and go, records of windows change, a window is placed. Steps that belong together are
one element here, such as the new position in a record and the command that moves the scene node, or
a new list of keyboards and the capabilities that clients are told. So what is to hold between two of
them needs to be proved for each element only, and holds after whatever the server does.

## Main definitions

* `WindowTable.PlacesKept` — no record is new, and none has another node or place.
* `Record.isQuiet`, `Record.isHook` — entries that are about neither places, the scene as a whole nor
  the seat's capabilities, and those about native listeners.
* `Server.Asked` — quiet entries went into the journal, and nothing else happened.
* `Stock`, `Handler.stock?` — the lists that few handlers have to do with.
* `Server.Composed` — a state comes from an earlier one by elements.

## Main results

* `Server.Composed.run` — every handler is made up of elements.
* `Server.Composed.call` — so is every call.
-/

namespace Compositor

/-! ## Tables that keep places -/

/-- Every record was there before, with the same node at the same place. -/
def WindowTable.PlacesKept (before after : WindowTable) : Prop :=
  ∀ id window, after.get? id = some window → ∃ old, before.get? id = some old ∧
    old.scene = window.scene ∧ old.position = window.position

namespace WindowTable.PlacesKept

variable {before after : WindowTable}

/-- The same records are at the same places. -/
lemma of_get?_eq (h : ∀ id, after.get? id = before.get? id) : PlacesKept before after :=
  fun id window hw => ⟨window, (h id).symm.trans hw, rfl, rfl⟩

/-- A table keeps its own places. -/
lemma refl (table : WindowTable) : PlacesKept table table :=
  of_get?_eq fun _ => rfl

/-- A change that has nothing to do with places. -/
lemma update (table : WindowTable) (id : WindowId) {change : Window → Window}
    (hs : ∀ window, (change window).scene = window.scene)
    (hp : ∀ window, (change window).position = window.position) :
    PlacesKept table (table.update id change) := by
  intro other window hw
  rw [get?_update] at hw
  split at hw <;> rename_i ho
  · obtain ⟨old, hold, rfl⟩ := Option.map_eq_some_iff.1 hw
    exact ⟨old, ho ▸ hold, (hs old).symm, (hp old).symm⟩
  · exact ⟨window, hw, rfl, rfl⟩

/-- Dropping a record moves no other one. -/
lemma destroy (table : WindowTable) (id : WindowId) : PlacesKept table (table.destroy id) := by
  intro other window hw
  rw [get?_destroy] at hw
  split at hw
  · cases hw
  · exact ⟨window, hw, rfl, rfl⟩

/-- Places that are kept twice are kept. -/
lemma trans {middle : WindowTable} (h : PlacesKept before middle) (h' : PlacesKept middle after) :
    PlacesKept before after := by
  intro id window hw
  obtain ⟨between, hbetween, hscene, hposition⟩ := h' id window hw
  obtain ⟨old, hold, hs, hp⟩ := h id between hbetween
  exact ⟨old, hold, hs.trans hscene, hp.trans hposition⟩

end WindowTable.PlacesKept

/-! ## Quiet entries -/

namespace Record

/-- Whether an entry leaves all scene nodes where they are, the scene up, and the seat as it is. -/
def isQuiet : Record → Bool
  | command (.setScenePosition _ _) => false
  | command .destroyScene => false
  | command (.setSeatCapabilities _) => false
  | toplevelScene _ _ => false
  | _ => true

/-- Whether an entry is about a native listener. -/
def isHook : Record → Bool
  | connected _ _ _ => true
  | disconnected _ => true
  | _ => false

end Record

/-- A list that a server keeps of objects outside. -/
inductive Stock where
  /-- The windows. -/
  | windows
  /-- The keyboards. -/
  | keyboards
  /-- The outputs. -/
  | outputs
deriving DecidableEq

/-- The list that a handler changes, other than by dropping a window. -/
def Handler.stock? : Handler → Option Stock
  | .newToplevel => some .windows
  | .newInput => some .keyboards
  | .keyboardDestroyed _ => some .keyboards
  | .newOutput => some .outputs
  | .outputDestroyed _ => some .outputs
  | _ => none

namespace Server

variable {T : Type} [Toolkit T]

/-- Shuts the registry down by itself, and releases all listeners. -/
def closeRegistry (server : Server T) : Server T :=
  let released := server.registry.clear
  { server with registry := released.2 }.disconnectAll released.1

/-! ## Steps that only ask -/

/-- Quiet entries went into the journal, the toolkit became what they make of it, and the server's
own state is as before, up to the listeners. -/
structure Asked (before after : Server T) : Prop where
  /-- The server's own state is as before. -/
  onlyOutside : OnlyOutside before after
  /-- The entries, and what the toolkit became. -/
  led : ∃ records, after.journal = records ++ before.journal ∧
    Led records before.toolkit after.toolkit ∧ ∀ record ∈ records, record.isQuiet = true

namespace Asked

variable {before middle after : Server T}

/-- Only the registry changes. -/
lemma of_registry (server : Server T) (registry : Registry Handler) :
    Asked server { server with registry := registry } :=
  ⟨⟨_, _, _, rfl⟩, [], rfl, rfl, by simp⟩

/-- Nothing is asked. -/
lemma refl (server : Server T) : Asked server server :=
  of_registry server server.registry

/-- What is asked first and what is asked then are asked together. -/
lemma trans (h : Asked before middle) (h' : Asked middle after) : Asked before after := by
  obtain ⟨first, hfirst, hled, hquiet⟩ := h.led
  obtain ⟨second, hsecond, hled', hquiet'⟩ := h'.led
  refine ⟨h.onlyOutside.trans h'.onlyOutside, second ++ first, ?_, hled.append hled', ?_⟩
  · rw [hsecond, hfirst, List.append_assoc]
  · intro record hm
    exact (List.mem_append.1 hm).elim (hquiet' record) (hquiet record)

/-- One entry. -/
lemma note (server : Server T) {record : Record} {toolkit : T} (hq : record.isQuiet = true)
    (hl : record.Leads server.toolkit toolkit) :
    Asked server ({ server with toolkit := toolkit }.note record) where
  onlyOutside := ⟨_, _, _, rfl⟩
  led := ⟨[record], rfl, ⟨server.toolkit, rfl, hl⟩, by simpa using hq⟩

/-- Taking a mark back asks for nothing. -/
lemma revive (server : Server T) (handle : Handle) : Asked server (server.revive handle) :=
  of_registry server _

/-- A registration asks for a native listener at most. -/
lemma register (server : Server T) (handle : Handle) (signal : Signal)
    (callback : Callback Handler) :
    Asked server (server.register handle signal callback).2 := by
  unfold Server.register
  split
  · exact refl server
  · split
    · exact of_registry server _
    · have hconnected : Asked server (server.connect handle signal).2 := note server rfl rfl
      exact hconnected.trans (of_registry _ _)

/-- Listeners are disconnected one after the other. -/
lemma disconnectAll (server : Server T) (listeners : List (Listener Handler)) :
    Asked server (server.disconnectAll listeners) := by
  unfold Server.disconnectAll
  induction listeners generalizing server with
  | nil => exact refl server
  | cons listener rest ih =>
    have hfirst : Asked server (server.disconnect listener.token) := note server rfl rfl
    exact hfirst.trans (ih _)

/-- Releasing a handle asks only to disconnect its listeners. -/
lemma unregisterAll (server : Server T) (handle : Handle) :
    Asked server (server.unregisterAll handle).2 :=
  (of_registry server _).trans (disconnectAll _ _)

/-- Retiring a handle asks only to disconnect its listeners. -/
lemma retire (server : Server T) (handle : Handle) : Asked server (server.retire handle) :=
  (of_registry server _).trans (disconnectAll _ _)

/-- Removing a subscriber asks to disconnect at most its listener. -/
lemma unsubscribe (server : Server T) (id : SubscriptionId) :
    Asked server (server.unsubscribe id).2 := by
  unfold Server.unsubscribe
  split
  · exact refl server
  · exact of_registry server _
  · exact (of_registry server _).trans (note _ rfl rfl)

/-- Shutting the registry down asks only to disconnect all listeners. -/
lemma closeRegistry (server : Server T) : Asked server server.closeRegistry :=
  (of_registry server _).trans (disconnectAll _ _)

end Asked

/-! ## Elements -/

/-- A state comes from an earlier one by elementary steps. The lists that a given predicate does not
allow do not grow, and those of devices stay as they are. -/
inductive Composed (may : Stock → Prop) : Server T → Server T → Prop
  /-- Nothing is done. -/
  | refl (server : Server T) : Composed may server server
  /-- One thing is done and then another. -/
  | trans {before middle after : Server T} :
    Composed may before middle → Composed may middle after → Composed may before after
  /-- Something quiet is asked of the toolkit, other than about native listeners. -/
  | ask (server : Server T) {record : Record} {toolkit : T} :
    record.isQuiet = true → record.isHook = false → record.Leads server.toolkit toolkit →
      Composed may server ({ server with toolkit := toolkit }.note record)
  /-- The mark of a handle is taken back. -/
  | revive (server : Server T) (handle : Handle) : Composed may server (server.revive handle)
  /-- A subscription is made or refused. -/
  | register (server : Server T) (handle : Handle) (signal : Signal)
      (callback : Callback Handler) :
    Composed may server (server.register handle signal callback).2
  /-- All listeners of a handle are released. -/
  | unregisterAll (server : Server T) (handle : Handle) :
    Composed may server (server.unregisterAll handle).2
  /-- A handle is retired. -/
  | retire (server : Server T) (handle : Handle) : Composed may server (server.retire handle)
  /-- A subscriber is removed. -/
  | unsubscribe (server : Server T) (id : SubscriptionId) :
    Composed may server (server.unsubscribe id).2
  /-- The registry is shut down. -/
  | closeRegistry (server : Server T) : Composed may server server.closeRegistry
  /-- Records change or are dropped, but not moved, or their order changes. -/
  | arrange (server : Server T) {table : WindowTable} : server.windows.PlacesKept table →
    Composed may server { server with windows := table }
  /-- A window is placed, and so is its node. -/
  | place (server : Server T) {id : WindowId} {window : Window} (position : Point Coordinate) :
    server.windows.get? id = some window →
      Composed may server (server.placeWindow id window.scene position)
  /-- All windows are dropped and the scene is taken down. -/
  | takeDown (server : Server T) :
    Composed may server ({ server with windows := WindowTable.empty }.perform .destroyScene)
  /-- A window appears, with a node of its own. -/
  | appear (server : Server T) (toplevel surface : Handle) : may .windows →
    Composed may server ((server.createToplevelScene toplevel).2.addWindow toplevel surface
      (server.createToplevelScene toplevel).1).2
  /-- The list of keyboards changes, and clients are told. -/
  | recount (server : Server T) (keyboards : List Handle) : may .keyboards →
    Composed may server { server with keyboards := keyboards }.updateCapabilities
  /-- The list of outputs changes. -/
  | relist (server : Server T) (outputs : List Handle) : may .outputs →
    Composed may server { server with outputs := outputs }
  /-- A grab begins or ends. -/
  | grab (server : Server T) (interaction : Interaction) :
    Composed may server { server with interaction := interaction }
  /-- The session begins or ends. -/
  | session (server : Server T) (socket : Option String) (running : Bool)
      (display : Option String) :
    Composed may server { server with socket := socket, running := running, display := display }

namespace Composed

variable {may also : Stock → Prop} {before after : Server T}

/-- What is allowed anyway may be allowed to more. -/
lemma mono (h : Composed may before after) (hm : ∀ stock, may stock → also stock) :
    Composed also before after := by
  induction h with
  | refl server => exact .refl server
  | trans _ _ ih ih' => exact ih.trans ih'
  | ask server hq hk hl => exact .ask server hq hk hl
  | revive server handle => exact .revive server handle
  | register server handle signal callback => exact .register server handle signal callback
  | unregisterAll server handle => exact .unregisterAll server handle
  | retire server handle => exact .retire server handle
  | unsubscribe server id => exact .unsubscribe server id
  | closeRegistry server => exact .closeRegistry server
  | arrange server hp => exact .arrange server hp
  | place server position hw => exact .place server position hw
  | takeDown server => exact .takeDown server
  | appear server toplevel surface ha => exact .appear server toplevel surface (hm _ ha)
  | recount server keyboards ha => exact .recount server keyboards (hm _ ha)
  | relist server outputs ha => exact .relist server outputs (hm _ ha)
  | grab server interaction => exact .grab server interaction
  | session server socket running display => exact .session server socket running display

/-- A quiet command. -/
lemma perform (server : Server T) {command : Command}
    (hq : (Record.command command).isQuiet = true) :
    Composed may server (server.perform command) :=
  .ask server hq rfl rfl

/-- Wirings are subscriptions, one after the other. -/
lemma listenAll (server : Server T) (wirings : List Wiring) :
    Composed may server (server.listenAll wirings) := by
  induction wirings generalizing server with
  | nil => exact .refl server
  | cons wiring rest ih =>
    have hfirst : Composed may server
        (server.register wiring.handle wiring.signal wiring.callback).2 := .register server _ _ _
    exact hfirst.trans (ih _)

/-- Subscriptions that were all made. -/
lemma wireAll {server : Server T} {wirings : List Wiring}
    (h : server.wireAll wirings = .ok after) : Composed may server after := by
  induction wirings generalizing server with
  | nil =>
    cases h
    exact .refl after
  | cons wiring rest ih =>
    have hfirst : Composed may server
        (server.register wiring.handle wiring.signal wiring.callback).2 := .register server _ _ _
    unfold Server.wireAll at h
    split at h <;> rename_i hr
    · rw [hr] at hfirst
      exact hfirst.trans (ih h)
    · cases h

/-- A new server has loaded the cursor theme and subscribed to the global objects. -/
lemma of_create {toolkit : T} {config : Config} {display : Option String} {server : Server T}
    (h : create toolkit config display = .ok server) :
    ∃ bindings, Composed may (unwired toolkit config bindings display) server := by
  unfold create at h
  split at h
  · cases h
  · rename_i bindings _
    dsimp only at h
    split at h <;> rename_i hwired
    · cases h
      exact ⟨bindings, (perform _ rfl).trans (wireAll hwired)⟩
    · cases h

/-! ### Focus -/

/-- At most one toplevel is told that it is not active any more. -/
lemma deactivatePrevious (server : Server T) (previous : Option Handle) (toplevel : Handle) :
    Composed may server (server.deactivatePrevious previous toplevel) := by
  unfold Server.deactivatePrevious
  split
  · split
    · exact .refl server
    · exact perform server rfl
  · exact .refl server

/-- The window that gets the focus is raised and moved to the front, told that it is active, and
entered. -/
lemma focusWindow (server : Server T) (id : WindowId) (surface : Handle) :
    Composed may server (server.focusWindow id surface) := by
  unfold Server.focusWindow
  dsimp only
  split
  · exact .refl server
  · split
    · exact .refl server
    · rename_i window _
      let told := server.deactivatePrevious (Toolkit.keyboardFocus server.toolkit) window.toplevel
      have htold : Composed may server told := deactivatePrevious server _ _
      have hraised : Composed may told (told.perform (.raiseToTop window.scene)) := perform _ rfl
      have hmoved : Composed may (told.perform (.raiseToTop window.scene))
          { told.perform (.raiseToTop window.scene) with
            windows := (told.perform (.raiseToTop window.scene)).windows.moveToFront id } :=
        .arrange _ (.of_get?_eq (WindowTable.get?_moveToFront _ id))
      have hfronted := (htold.trans hraised).trans hmoved
      exact (hfronted.trans (perform _ rfl)).trans (perform _ rfl)

/-- Cycling gives the focus to the last window of the stack, if it gives it at all. -/
lemma cycleFocus (server : Server T) : Composed may server server.cycleFocus := by
  unfold Server.cycleFocus
  split
  · exact .refl server
  · split
    · exact .refl server
    · exact focusWindow _ _ _

/-! ### Windows -/

/-- A new window appears, and its objects are listened to. -/
lemma handleNewToplevel (server : Server T) (toplevel surface : Handle) (h : may .windows) :
    Composed may server (server.handleNewToplevel toplevel surface) := by
  have hrevived : Composed may server ((server.revive toplevel).revive surface) :=
    (Composed.revive server toplevel).trans (.revive _ surface)
  exact (hrevived.trans (.appear _ toplevel surface h)).trans (listenAll _ _)

/-- A mapped window is marked and stacked, and then gets the focus. -/
lemma handleMap (server : Server T) (id : WindowId) :
    Composed may server (server.handleMap id) := by
  unfold Server.handleMap
  split
  · exact .refl server
  · have hmarked : server.windows.PlacesKept
        (server.windows.update id fun found => { found with mapped := true }) :=
      .update _ _ (fun _ => rfl) fun _ => rfl
    have hmapped := hmarked.trans (.of_get?_eq (WindowTable.get?_push _ id))
    exact (Composed.arrange server hmapped).trans (focusWindow _ _ _)

/-- An unmapped window loses its grab and its place in the stack. -/
lemma handleUnmap (server : Server T) (id : WindowId) :
    Composed may server (server.handleUnmap id) := by
  have hmarked : server.windows.PlacesKept
      (server.windows.update id fun found => { found with mapped := false }) :=
    .update _ _ (fun _ => rfl) fun _ => rfl
  have hunmapped := hmarked.trans (.of_get?_eq (WindowTable.get?_unstack _ id))
  exact (Composed.grab server _).trans (.arrange _ hunmapped)

/-- A commit records the geometry of the window, and a first one has the toplevel configured. -/
lemma handleCommit (server : Server T) (id : WindowId) (initial : Bool) :
    Composed may server (server.handleCommit id initial) := by
  unfold Server.handleCommit
  split
  · exact .refl server
  · rename_i window _
    have hasked : Composed may server
        (if initial then server.perform (.scheduleConfigure window.toplevel) else server) := by
      split
      · exact perform server rfl
      · exact .refl server
    exact hasked.trans (.arrange _ (.update _ _ (fun _ => rfl) fun _ => rfl))

/-- A destroyed window loses its grab and its record, and its surface is released. -/
lemma handleToplevelDestroyed (server : Server T) (id : WindowId) :
    Composed may server (server.handleToplevelDestroyed id) := by
  have hdropped : Composed may server
      { server.releaseGrab id with windows := server.windows.destroy id } :=
    (Composed.grab server _).trans (.arrange _ (.destroy _ id))
  unfold Server.handleToplevelDestroyed
  dsimp only
  split
  · exact hdropped
  · exact hdropped.trans (.unregisterAll _ _)

/-- A popup with a parent gets a node and is listened to. -/
lemma handleNewPopup (server : Server T) (popup : Handle) (parent : Option Handle) :
    Composed may server (server.handleNewPopup popup parent).server := by
  cases parent with
  | none => exact .refl server
  | some parent =>
    have hcreated : Composed may (server.revive popup)
        ((server.revive popup).createPopupScene popup parent) := .ask _ rfl rfl rfl
    exact ((Composed.revive server popup).trans hcreated).trans (listenAll _ _)

/-! ### The pointer -/

/-- A move places its window, or ends if there is none. -/
lemma processMove (server : Server T) (grab : MoveGrab) :
    Composed may server (server.processMove grab) := by
  unfold Server.processMove
  split
  · exact .grab server _
  · rename_i hw
    exact .place server _ hw

/-- A resize places its window and asks for a size, or ends if there is none. -/
lemma processResize (server : Server T) (grab : ResizeGrab) :
    Composed may server (server.processResize grab).server := by
  unfold Server.processResize
  split
  · exact .grab server _
  · rename_i hw
    dsimp only
    split
    · exact .refl server
    · exact (Composed.place server _ hw).trans (perform _ rfl)

/-- The cursor is changed where there is no surface. -/
lemma showDefaultCursor (server : Server T) (hit : Option SurfaceHit) :
    Composed may server (server.showDefaultCursor hit) := by
  unfold Server.showDefaultCursor
  split
  · exact .refl server
  · exact perform server rfl

/-- Motion that passes through is told to the surface under the pointer, if there is one. -/
lemma processPassThrough (server : Server T) (time : UInt32) :
    Composed may server (server.processPassThrough time) := by
  have hshown (hit : Option SurfaceHit) : Composed may server (server.showDefaultCursor hit) :=
    showDefaultCursor server hit
  unfold Server.processPassThrough
  dsimp only
  split
  · exact ((hshown _).trans (perform _ rfl)).trans (perform _ rfl)
  · exact (hshown _).trans (perform _ rfl)

/-- Motion does what the grab says. -/
lemma processMotion (server : Server T) (time : UInt32) :
    Composed may server (server.processMotion time).server := by
  unfold Server.processMotion
  split
  · exact processMove server _
  · exact processResize server _
  · exact processPassThrough server time

/-- A button is passed on. A release ends a grab, and a press may give the focus. -/
lemma handleButton (server : Server T) (time button : UInt32) (state : Press) :
    Composed may server (server.handleButton time button state) := by
  have hforwarded : Composed may server (server.perform (.pointerButton time button state)) :=
    perform server rfl
  cases state with
  | released => exact hforwarded.trans (.grab _ _)
  | pressed =>
    unfold Server.handleButton Server.focusUnderCursor
    dsimp only
    split
    · exact hforwarded
    · split
      · exact hforwarded
      · exact hforwarded.trans (focusWindow _ _ _)

/-- A request begins a grab, or is denied. -/
lemma beginInteractive (server : Server T) (id : WindowId) (mode : GrabMode) (edges : Edges) :
    Composed may server (server.beginInteractive id mode edges).server := by
  unfold Server.beginInteractive
  split
  · exact .refl server
  · exact .refl server
  · exact .grab server _

/-- The client that has the pointer's focus sets the cursor, and no other one does. -/
lemma handleSetCursorRequest (server : Server T) (client : Handle) (surface : Option Handle)
    (hotspot : Point Int32) :
    Composed may server (server.handleSetCursorRequest client surface hotspot) := by
  unfold Server.handleSetCursorRequest
  split
  · exact perform server rfl
  · exact .refl server

/-! ### Devices and outputs -/

/-- To terminate is to stop running and to tell the display. -/
lemma terminate (server : Server T) : Composed may server server.terminate :=
  (Composed.session server server.socket false server.display).trans (perform _ rfl)

/-- Modifiers are told to the seat, for their own keyboard. -/
lemma handleModifiers (server : Server T) (device : Handle) :
    Composed may server (server.handleModifiers device) :=
  (perform server rfl).trans (perform _ rfl)

/-- A key runs what it is bound to, or is passed on. -/
lemma handleKey (server : Server T) (device : Handle) (time keycode : UInt32) (state : Press) :
    Composed may server (server.handleKey device time keycode state) := by
  unfold Server.handleKey
  split
  · rename_i action _
    cases action with
    | terminate => exact terminate server
    | cycleFocus => exact cycleFocus server
  · exact (perform server rfl).trans (perform _ rfl)

/-- A keyboard is set up, listened to and given to the seat, a pointer is attached, and all devices
are counted again. -/
lemma handleNewInput (server : Server T) (device : Handle) (kind : DeviceKind)
    (h : may .keyboards) : Composed may server (server.handleNewInput device kind) := by
  have hrevived : Composed may server (server.revive device) := .revive server device
  cases kind with
  | keyboard =>
    let keyboard := (server.revive device).config.keyboard
    have hconfigured : Composed may server ((server.revive device).perform
        (.configureKeyboard device keyboard.repeatRate keyboard.repeatDelay)) :=
      hrevived.trans (perform _ rfl)
    have hlistening := hconfigured.trans (listenAll _ (keyboardWiring device))
    exact (hlistening.trans (perform _ rfl)).trans (.recount _ _ h)
  | pointer => exact (hrevived.trans (perform _ rfl)).trans (.recount _ _ h)
  | _ => exact hrevived.trans (.recount _ _ h)

/-- An output is set up, committed, listened to and put into the layout and the list. -/
lemma handleNewOutput (server : Server T) (output : Handle) (h : may .outputs) :
    Composed may server (server.handleNewOutput output) := by
  let prepared := (server.revive output).perform (.initOutputRender output)
  let configuration := OutputConfiguration.mk true (Toolkit.preferredMode prepared.toolkit output)
  have hprepared : Composed may server prepared :=
    (Composed.revive server output).trans (perform _ rfl)
  have hcommitted : Composed may prepared (prepared.commitOutput output configuration) :=
    .ask _ rfl rfl rfl
  have hlistening := (hprepared.trans hcommitted).trans (listenAll _ (outputWiring output))
  exact (hlistening.trans (perform _ rfl)).trans (.relist _ _ h)

/-! ## Handlers -/

/-- **Every handler is made up of elements**, whatever the event and whether or not it ends by a
fault. It changes no list but its own. -/
theorem run (server : Server T) (handler : Handler) (event : Event) :
    Composed (fun stock => handler.stock? = some stock) server
      (handler.run event server).server := by
  unfold Handler.run
  split
  any_goals exact .refl server
  · exact handleNewOutput server _ rfl
  · exact handleNewInput server _ _ rfl
  · exact handleNewToplevel server _ _ rfl
  · exact handleNewPopup server _ _
  · exact (perform server rfl).trans (processMotion _ _)
  · exact (perform server rfl).trans (processMotion _ _)
  · exact handleButton server _ _ _
  · exact perform server rfl
  · exact perform server rfl
  · exact handleSetCursorRequest server _ _ _
  · exact handleMap server _
  · exact handleUnmap server _
  · exact handleCommit server _ _
  · exact handleToplevelDestroyed server _
  · exact beginInteractive server _ _ _
  · exact beginInteractive server _ _ _
  · exact perform server rfl
  · exact perform server rfl
  · exact .ask server rfl rfl rfl
  · exact .relist server _ rfl
  · exact handleModifiers server _
  · exact handleKey server _ _ _ _
  · exact .recount server _ rfl
  · exact .ask server rfl rfl rfl

/-- The list that a callback changes is that of its handler. -/
lemma runCallback (server : Server T) (event : Event) (callback : Callback Handler)
    (h : ∀ handler stock, callback = .run handler → handler.stock? = some stock → may stock) :
    Composed may server (server.runCallback event callback).server := by
  cases callback with
  | retire handle => exact .retire server handle
  | run handler => exact (run server handler event).mono fun stock => h handler stock rfl

/-! ## Calls -/

/-- Callbacks in turn change the lists of their handlers. -/
lemma serve (server : Server T) (event : Event) {callbacks : List (Callback Handler)}
    (h : ∀ handler stock, .run handler ∈ callbacks → handler.stock? = some stock → may stock) :
    Composed may server (server.serve event callbacks).server := by
  induction callbacks generalizing server with
  | nil => exact .refl server
  | cons callback rest ih =>
    have hran : Composed may server (server.runCallback event callback).server :=
      runCallback server event callback fun handler stock hc =>
        h handler stock (hc ▸ List.mem_cons_self ..)
    unfold Server.serve
    dsimp only
    split
    · exact hran
    · exact hran.trans (ih _ fun handler stock hm => h handler stock (List.mem_cons_of_mem _ hm))

/-- A dispatch may change any list. -/
lemma dispatch (server : Server T) (handle : Handle) (signal : Signal) (event : Event) :
    Composed (fun _ => True) server (server.dispatch handle signal event).server :=
  serve server event fun _ _ _ _ => trivial

/-- A native dispatch is a dispatch, or nothing. -/
lemma dispatchNative (server : Server T) (token : Token) (event : Event) :
    Composed (fun _ => True) server (server.dispatchNative token event).server := by
  unfold Server.dispatchNative
  split
  · exact dispatch server _ _ event
  · exact .refl server

/-- A loop dispatches one event after the other, until it ends. -/
lemma runEmissions (server : Server T) (emissions : List Emission) :
    Composed (fun _ => True) server (server.run emissions).server := by
  induction emissions generalizing server with
  | nil => exact .refl server
  | cons emission rest ih =>
    have hdispatched := dispatch server emission.handle emission.signal emission.event
    unfold Server.run
    dsimp only
    split
    · split
      · exact hdispatched
      · exact hdispatched.trans (ih _)
    · exact .refl server

/-- A start opens the socket and may start the backend, and the session begins or not. -/
lemma start (server : Server T) (host : Host) :
    Composed may server (server.start host).server := by
  have hopened : Composed may server server.openSocket.2 := .ask server rfl rfl rfl
  have hstarted : Composed may server server.openSocket.2.startBackend.2 :=
    hopened.trans (.ask _ rfl rfl rfl)
  obtain ⟨asked, hasked, socket, running, display, hstart⟩ := server.start_server host
  rw [hstart]
  obtain rfl | rfl := hasked
  · exact hopened.trans (.session _ _ _ _)
  · exact hstarted.trans (.session _ _ _ _)

/-- The end of the session stops running, ends the grab, takes the scene down and shuts the registry
down. -/
lemma shutdown (server : Server T) : Composed may server server.shutdown := by
  let quiet := { server with running := false }.perform .destroyClients
  have hquiet : Composed may server quiet :=
    (Composed.session server server.socket false server.display).trans (perform _ rfl)
  have hfree : Composed may server { quiet with interaction := .passThrough } :=
    hquiet.trans (.grab _ _)
  have hcleared := hfree.trans (.takeDown _)
  exact (hcleared.trans (.closeRegistry _)).trans (.session _ none _ _)

/-- A call that dispatches nothing changes no list, other than by dropping windows. -/
lemma direct (server : Server T) {call : Call} (h : call.isDirect = true) :
    Composed (fun _ => False) server (server.call call).server := by
  cases call with
  | emit handle signal event => cases h
  | emitNative token event => cases h
  | run emissions => cases h
  | start host => exact start server host
  | terminate => exact terminate server
  | shutdown => exact shutdown server
  | cycleFocus => exact cycleFocus server
  | focusWindow id surface => exact focusWindow server id surface
  | beginInteractive id mode edges => exact beginInteractive server id mode edges
  | processMotion time => exact processMotion server time
  | observe handle signal label => exact .register server handle signal _
  | track handle signal => exact .register server handle signal _
  | unregisterAll handle => exact .unregisterAll server handle
  | unsubscribe id => exact .unsubscribe server id
  | revive handle => exact .revive server handle

/-- **Every call is made up of elements**, whether or not it ends by a fault. -/
theorem call (server : Server T) (call : Call) :
    Composed (fun _ => True) server (server.call call).server := by
  by_cases hd : call.isDirect = true
  · exact (direct server hd).mono fun _ _ => trivial
  · cases call with
    | emit handle signal event => exact dispatch server handle signal event
    | emitNative token event => exact dispatchNative server token event
    | run emissions => exact runEmissions server emissions
    | _ => exact absurd rfl hd

end Composed

end Server

end Compositor
