import Compositor.Proofs.Server.Census
import Compositor.Proofs.Server.Subscriptions

set_option autoImplicit false

/-!
# How the server takes in what is announced

Outputs, input devices, windows and popups are taken in alike: the mark of an earlier object with the
same value is taken back, the toolkit is told what to do with the object, and the server subscribes
to its signals. A window gets a record as well. This module says for all of them what they add.

## Main definitions

* `Server.Arrival.wirings` — what is listened to on announced objects.
* `Server.Prepared` — the announced objects are about to be listened to.
* `Server.Arrived` — a state has what an earlier one had, and the announced objects.

## Main results

* `Server.Arrival.callbacksIn_wirings` — the wirings run what the census says.
* `Server.Arrived.newOutput`, `Server.Arrived.newInput`, `Server.Arrived.newToplevel`,
  `Server.Arrived.newPopup` — the four kinds of announcements.
-/

namespace Compositor.Server

/-- What is listened to on a popup. -/
def popupWiring (popup : Handle) : List Wiring :=
  [.run popup .commit (.popupCommit popup), .track popup]

/-! ## What the wirings run -/

/-- The wirings of an output run what an output should. -/
lemma callbacksIn_outputWiring (output handle : Handle) (signal : Signal) :
    callbacksIn (outputWiring output) handle signal =
      if handle = output then Role.output.callbacks output signal else [] := by
  rw [callbacksIn_of_forall output
    (by simp [outputWiring, Wiring.run, Wiring.track])]
  cases signal <;> rfl

/-- The wirings of a keyboard run what a keyboard should. -/
lemma callbacksIn_keyboardWiring (device handle : Handle) (signal : Signal) :
    callbacksIn (keyboardWiring device) handle signal =
      if handle = device then Role.keyboard.callbacks device signal else [] := by
  rw [callbacksIn_of_forall device
    (by simp [keyboardWiring, Wiring.run, Wiring.track])]
  cases signal <;> rfl

/-- The wirings of a popup run what a popup should. -/
lemma callbacksIn_popupWiring (popup handle : Handle) (signal : Signal) :
    callbacksIn (popupWiring popup) handle signal =
      if handle = popup then Role.popup.callbacks popup signal else [] := by
  rw [callbacksIn_of_forall popup
    (by simp [popupWiring, Wiring.run, Wiring.track])]
  cases signal <;> rfl

/-- The wirings of a window run what the toplevel should run, and what the surface should. -/
lemma callbacksIn_toplevelWiring {id : WindowId} {toplevel surface : Handle}
    (hne : toplevel ≠ surface) (handle : Handle) (signal : Signal) :
    callbacksIn (toplevelWiring id toplevel surface) handle signal =
      if handle = toplevel then (Role.toplevel id surface).callbacks toplevel signal
      else if handle = surface then (Role.surface id).callbacks surface signal
      else [] := by
  split <;> rename_i ht
  · subst ht
    have hown : (toplevelWiring id handle surface).filter (fun wiring => wiring.handle = handle) =
        [.run handle .destroy (.toplevelDestroyed id), .run handle .requestMove (.requestMove id),
          .run handle .requestResize (.requestResize id), .track handle] := by
      simp [toplevelWiring, Wiring.run, Wiring.track, hne.symm]
    rw [callbacksIn_of_filter _ hown]
    cases signal <;> rfl
  · split <;> rename_i hs
    · subst hs
      have hown : (toplevelWiring id toplevel handle).filter
          (fun wiring => wiring.handle = handle) =
          [.run handle .map (.map id), .run handle .unmap (.unmap id),
            .run handle .commit (.commit id), .track handle] := by
        simp [toplevelWiring, Wiring.run, Wiring.track, hne]
      rw [callbacksIn_of_filter _ hown]
      cases signal <;> rfl
    · refine callbacksIn_eq_nil (fun wiring hw => ?_) signal
      simp only [toplevelWiring, List.mem_cons, List.not_mem_nil, or_false] at hw
      rcases hw with rfl | rfl | rfl | rfl | rfl | rfl | rfl | rfl <;>
        simp [Wiring.run, Wiring.track, Ne.symm ht, Ne.symm hs]

/-- The wirings of the global objects, if these are distinct, run what they should run. -/
lemma callbacksIn_globalWiring {T : Type} [Toolkit T] {toolkit : T}
    (hd : [Toolkit.backend toolkit, Toolkit.shell toolkit, Toolkit.cursor toolkit,
      Toolkit.seat toolkit].Nodup) (handle : Handle) (signal : Signal) :
    callbacksIn (globalWiring toolkit) handle signal =
      (Census.initial toolkit).callbacks handle signal ++
        if handle = Toolkit.cursor toolkit then cursorCallbacks signal else [] := by
  unfold globalWiring Census.initial Census.callbacks Census.role?
  dsimp only
  generalize Toolkit.backend toolkit = backend at *
  generalize Toolkit.shell toolkit = shell at *
  generalize Toolkit.cursor toolkit = cursor at *
  generalize Toolkit.seat toolkit = seat at *
  simp only [List.nodup_cons, List.mem_cons, List.not_mem_nil, or_false, not_or] at hd
  obtain ⟨⟨hbs, hbc, hbt⟩, ⟨hsc, hst⟩, hct, -⟩ := hd
  by_cases hb : handle = backend
  · subst hb
    rw [callbacksIn_of_filter [.run handle .newOutput .newOutput,
      .run handle .newInput .newInput, .track handle]
      (by simp [Wiring.run, Wiring.track, Ne.symm hbs, Ne.symm hbc, Ne.symm hbt])]
    simp only [List.find?, decide_true, Option.map_some, Option.elim_some, hbc, ↓reduceIte,
      List.append_nil]
    cases signal <;> rfl
  by_cases hs : handle = shell
  · subst hs
    rw [callbacksIn_of_filter [.run handle .newToplevel .newToplevel,
      .run handle .newPopup .newPopup, .track handle]
      (by simp [Wiring.run, Wiring.track, hbs, Ne.symm hsc, Ne.symm hst])]
    simp only [List.find?, decide_true, decide_false, Option.map_some, Option.elim_some, hbs, hsc,
      ↓reduceIte, List.append_nil]
    cases signal <;> rfl
  by_cases hc : handle = cursor
  · subst hc
    rw [callbacksIn_of_filter [.run handle .motion .motion,
      .run handle .motionAbsolute .motionAbsolute, .run handle .button .button,
      .run handle .axis .axis, .run handle .pointerFrame .pointerFrame]
      (by simp [Wiring.run, Wiring.track, hbc, hsc, Ne.symm hct])]
    simp only [List.find?, decide_false, Option.map_none, Option.elim_none, hbc, hsc, Ne.symm hct,
      ↓reduceIte, List.nil_append]
    cases signal <;> rfl
  by_cases ht : handle = seat
  · subst ht
    rw [callbacksIn_of_filter [.run handle .requestSetCursor .requestSetCursor,
      .track handle] (by simp [Wiring.run, Wiring.track, hbt, hst, hct])]
    simp only [List.find?, decide_true, decide_false, Option.map_some, Option.elim_some, hbt, hst,
      Ne.symm hct, ↓reduceIte, List.append_nil]
    cases signal <;> rfl
  · rw [callbacksIn_of_filter []
      (by simp [Wiring.run, Wiring.track, Ne.symm hb, Ne.symm hs, Ne.symm hc, Ne.symm ht])]
    simp [Ne.symm hb, Ne.symm hs, Ne.symm ht, hc]

namespace Arrival

/-- What is listened to on announced objects; a window among them has a given number. -/
def wirings (id : WindowId) : Arrival → List Wiring
  | output object => outputWiring object
  | device object .keyboard => keyboardWiring object
  | device _ _ => []
  | toplevel object root => toplevelWiring id object root
  | popup object => popupWiring object

variable {id : WindowId} {arrival : Arrival}

/-- Only announced objects are listened to. -/
lemma handle_mem_of_mem_wirings {wiring : Wiring} (h : wiring ∈ arrival.wirings id) :
    wiring.handle ∈ arrival.handles := by
  cases arrival with
  | output object =>
    simp only [wirings, outputWiring, List.mem_cons, List.not_mem_nil, or_false] at h
    rcases h with rfl | rfl | rfl | rfl <;> exact List.mem_singleton.2 rfl
  | device object kind =>
    cases kind with
    | keyboard =>
      simp only [wirings, keyboardWiring, List.mem_cons, List.not_mem_nil, or_false] at h
      rcases h with rfl | rfl | rfl | rfl <;> exact List.mem_singleton.2 rfl
    | _ => cases h
  | toplevel object root =>
    simp only [wirings, toplevelWiring, List.mem_cons, List.not_mem_nil, or_false] at h
    rcases h with rfl | rfl | rfl | rfl | rfl | rfl | rfl | rfl <;>
      simp [handles, Wiring.run, Wiring.track]
  | popup object =>
    simp only [wirings, popupWiring, List.mem_cons, List.not_mem_nil, or_false] at h
    rcases h with rfl | rfl <;> exact List.mem_singleton.2 rfl

/-- The wirings of announced objects run what these objects should run. -/
lemma callbacksIn_wirings (h : arrival.handles.Nodup) (handle : Handle) (signal : Signal) :
    callbacksIn (arrival.wirings id) handle signal =
      (((arrival.residents id).find? fun resident => resident.handle = handle).map
        Resident.role).elim [] fun role => role.callbacks handle signal := by
  cases arrival with
  | output object =>
    rw [wirings, callbacksIn_outputWiring]
    by_cases ho : object = handle
    · simp [residents, ho]
    · simp [residents, ho, Ne.symm ho]
  | device object kind =>
    cases kind with
    | keyboard =>
      rw [wirings, callbacksIn_keyboardWiring]
      by_cases ho : object = handle
      · simp [residents, ho]
      · simp [residents, ho, Ne.symm ho]
    | _ => rfl
  | toplevel object root =>
    have hne : object ≠ root := by simpa [handles] using h
    rw [wirings, callbacksIn_toplevelWiring hne]
    by_cases ho : object = handle
    · simp [residents, ho]
    · by_cases hr : root = handle
      · simp [residents, ho, hr, Ne.symm ho]
      · simp [residents, ho, hr, Ne.symm ho, Ne.symm hr]
  | popup object =>
    rw [wirings, callbacksIn_popupWiring]
    by_cases ho : object = handle
    · simp [residents, ho]
    · simp [residents, ho, Ne.symm ho]

/-- No announced object is listened to for a signal of the cursor. -/
lemma callbacksIn_of_isPointer (h : arrival.handles.Nodup) {signal : Signal}
    (hp : signal.isPointer = true) (handle : Handle) :
    callbacksIn (arrival.wirings id) handle signal = [] := by
  rw [callbacksIn_wirings h]
  cases ((arrival.residents id).find? fun resident =>
    resident.handle = handle).map Resident.role with
  | none => rfl
  | some role => exact role.callbacks_of_isPointer handle hp

end Arrival

variable {T : Type}

/-- The records are those of an earlier state, and that of an announced window. -/
def Arrival.Recorded (arrival : Arrival) (before : Server T) (table : WindowTable) : Prop :=
  match arrival with
  | .toplevel object root => ∃ window, table = before.windows.insert window ∧
    window.id = ⟨before.nextWindow⟩ ∧ window.toplevel = object ∧ window.surface = root
  | _ => table = before.windows

/-- Announced objects are known, but nothing is listened to yet. -/
structure Prepared (arrival : Arrival) (before after : Server T) : Prop where
  /-- The callbacks of every pair. -/
  callbacks_eq (handle : Handle) (signal : Signal) :
    after.registry.callbacks handle signal = before.registry.callbacks handle signal
  /-- The tables of the registry still agree. -/
  coherent : before.registry.Coherent → after.registry.Coherent
  /-- The announced objects may be listened to. -/
  check_eq {handle : Handle} : handle ∈ arrival.handles → after.registry.check handle = .ok ()
  /-- A window uses up a number. -/
  nextWindow_eq : after.nextWindow = before.nextWindow + arrival.windows
  /-- A window has a record. -/
  recorded : arrival.Recorded before after.windows
  /-- What went into the journal is about the announced objects. -/
  noted : Noted (Record.From before.windows arrival.handles) before after

/-- A state has what an earlier one had and what was announced: subscriptions, and the record of a
window with the next number. -/
structure Arrived (arrival : Arrival) (before after : Server T) : Prop where
  /-- The callbacks of every pair. -/
  callbacks_eq (handle : Handle) (signal : Signal) :
    after.registry.callbacks handle signal = before.registry.callbacks handle signal ++
      callbacksIn (arrival.wirings ⟨before.nextWindow⟩) handle signal
  /-- The tables of the registry still agree. -/
  coherent : before.registry.Coherent → after.registry.Coherent
  /-- A window uses up a number. -/
  nextWindow_eq : after.nextWindow = before.nextWindow + arrival.windows
  /-- A window has a record. -/
  recorded : arrival.Recorded before after.windows
  /-- What went into the journal is about the announced objects. -/
  noted : Noted (Record.From before.windows arrival.handles) before after

variable {arrival : Arrival} {server before after : Server T}

namespace Arrived

/-- The record of an earlier window stays. -/
lemma get?_of_get? (h : Arrived arrival before after) {id : WindowId} {window : Window}
    (hid : id ≠ ⟨before.nextWindow⟩) (hw : before.windows.get? id = some window) :
    after.windows.get? id = some window := by
  have hr := h.recorded
  unfold Arrival.Recorded at hr
  split at hr
  · obtain ⟨added, ht, ha, -⟩ := hr
    rw [ht, WindowTable.get?_insert, ha, if_neg hid]
    exact hw
  · rw [hr]
    exact hw

/-- An announced window has a record. -/
lemma exists_get? (h : Arrived arrival before after) {id : WindowId} {handle surface : Handle}
    (hm : ⟨handle, .toplevel id surface⟩ ∈ arrival.residents ⟨before.nextWindow⟩) :
    ∃ window, after.windows.get? id = some window ∧ window.toplevel = handle ∧
      window.surface = surface := by
  cases arrival with
  | toplevel object root =>
    obtain ⟨rfl, rfl, rfl⟩ : handle = object ∧ id = ⟨before.nextWindow⟩ ∧ surface = root := by
      simpa [Arrival.residents] using hm
    obtain ⟨added, ht, ha, hobject, hroot⟩ := h.recorded
    refine ⟨added, ?_, hobject, hroot⟩
    rw [ht, WindowTable.get?_insert, ha, if_pos rfl]
  | device object kind => cases kind <;> simp [Arrival.residents] at hm
  | _ => simp [Arrival.residents] at hm

/-- A record was there before, or it is that of an announced window. -/
lemma get?_cases (h : Arrived arrival before after) {id : WindowId} {window : Window}
    (hw : after.windows.get? id = some window) : before.windows.get? id = some window ∨
      ⟨window.toplevel, .toplevel id window.surface⟩ ∈ arrival.residents ⟨before.nextWindow⟩ := by
  have hr := h.recorded
  unfold Arrival.Recorded at hr
  split at hr
  · obtain ⟨added, ht, ha, rfl, rfl⟩ := hr
    rw [ht, WindowTable.get?_insert, ha] at hw
    split at hw <;> rename_i hid
    · cases hw
      simp [Arrival.residents, hid]
    · exact .inl hw
  · rw [hr] at hw
    exact .inl hw

end Arrived

variable [Toolkit T]

/-- Prepared objects are listened to. -/
lemma Prepared.listenAll (h : Prepared arrival before after) :
    Arrived arrival before (after.listenAll (arrival.wirings ⟨before.nextWindow⟩)) := by
  have hw : Wired (arrival.wirings ⟨before.nextWindow⟩) after _ :=
    .listenAll fun wiring hm => h.check_eq (Arrival.handle_mem_of_mem_wirings hm)
  have hnoted : Noted (Record.From before.windows arrival.handles) after
      (after.listenAll (arrival.wirings ⟨before.nextWindow⟩)) :=
    hw.noted.mono fun record ⟨_, hm, _, hr⟩ =>
      .of_mem (Arrival.handle_mem_of_mem_wirings hm) (by rw [hr]; rfl) (by rw [hr]; rfl)
  exact {
    callbacks_eq := fun handle signal => by rw [hw.callbacks_eq, h.callbacks_eq]
    coherent := fun c => hw.coherent (h.coherent c)
    nextWindow_eq := hw.onlyOutside.nextWindow_eq.trans h.nextWindow_eq
    recorded := by
      rw [hw.onlyOutside.windows_eq]
      exact h.recorded
    noted := h.noted.trans hnoted }

namespace Arrived

/-- Then a command about an announced object is given. -/
lemma thenPerform (h : Arrived arrival before after) (command : Command)
    (hr : (Record.command command).From before.windows arrival.handles) :
    Arrived arrival before (after.perform command) :=
  { h with noted := h.noted.trans (.of_cons rfl hr) }

/-- Then clients are told what the seat can do. -/
lemma thenUpdate (h : Arrived arrival before after) :
    Arrived arrival before after.updateCapabilities :=
  h.thenPerform _ (.of_nil rfl rfl)

/-! ## The kinds of announcements -/

/-- A handle whose mark was taken back admits registrations. -/
lemma check_revive (registry : Registry Handler) (h : registry.isShutDown = false)
    {handle other : Handle} (ho : other = handle ∨ registry.isRetired other = false) :
    (registry.revive handle).check other = .ok () := by
  refine Registry.check_eq_ok_iff.2 ⟨h, ?_⟩
  rw [Registry.isRetired_revive]
  rcases ho with rfl | ho <;> simp_all

section Kinds

variable (hopen : server.registry.isShutDown = false)

include hopen

/-- An output is set up, listened to and put into the layout. -/
lemma newOutput (output : Handle) :
    Arrived (.output output) server (server.handleNewOutput output) := by
  have hown : output ∈ (Arrival.output output).handles := List.mem_singleton.2 rfl
  have hprepared (configuration : OutputConfiguration) : Prepared (.output output) server
      (((server.revive output).perform (.initOutputRender output)).commitOutput output
        configuration) := {
    callbacks_eq := fun _ _ => rfl
    coherent := fun c => c.revive output
    check_eq := fun hm => check_revive _ hopen (.inl (List.mem_singleton.1 hm))
    nextWindow_eq := rfl
    recorded := rfl
    noted := Noted.trans (.of_cons rfl (.of_mem hown rfl rfl)) (.of_cons rfl (.of_mem hown rfl rfl)) }
  have hplaced := fun configuration => (hprepared configuration).listenAll.thenPerform
    (.addOutputToLayout output) (.of_mem hown rfl rfl)
  exact { hplaced _ with }

/-- A device is listened to if it is a keyboard, and clients are told of it. -/
lemma newInput (device : Handle) (kind : DeviceKind) :
    Arrived (.device device kind) server (server.handleNewInput device kind) := by
  have hown : device ∈ (Arrival.device device kind).handles := List.mem_singleton.2 rfl
  have hrevived : Prepared (.device device kind) server (server.revive device) := {
    callbacks_eq := fun _ _ => rfl
    coherent := fun c => c.revive device
    check_eq := fun hm => check_revive _ hopen (.inl (List.mem_singleton.1 hm))
    nextWindow_eq := rfl
    recorded := rfl
    noted := .of_eq rfl }
  cases kind with
  | keyboard =>
    have hconfigured (rate delay : Int32) : Prepared (.device device .keyboard) server
        ((server.revive device).perform (.configureKeyboard device rate delay)) :=
      { hrevived with noted := hrevived.noted.trans (.of_cons rfl (.of_mem hown rfl rfl)) }
    have hactive := fun rate delay => (hconfigured rate delay).listenAll.thenPerform
      (.setSeatKeyboard device) (.of_mem hown rfl rfl)
    exact thenUpdate { hactive _ _ with }
  | pointer =>
    have hattached := hrevived.listenAll.thenPerform (.attachPointer device)
      (.of_mem hown rfl rfl)
    exact hattached.thenUpdate
  | touch => exact hrevived.listenAll.thenUpdate
  | tabletTool => exact hrevived.listenAll.thenUpdate
  | tabletPad => exact hrevived.listenAll.thenUpdate
  | switch => exact hrevived.listenAll.thenUpdate

/-- A toplevel and its root surface are listened to, for a window of their own. -/
lemma newToplevel (toplevel surface : Handle) :
    Arrived (.toplevel toplevel surface) server (server.handleNewToplevel toplevel surface) := by
  let created := ((server.revive toplevel).revive surface).createToplevelScene toplevel
  have hadded : Prepared (.toplevel toplevel surface) server
      (created.2.addWindow toplevel surface created.1).2 := {
    callbacks_eq := fun _ _ => rfl
    coherent := fun c => (c.revive toplevel).revive surface
    check_eq := fun {handle} hm => by
      refine check_revive (server.registry.revive toplevel) hopen ?_
      rw [Registry.isRetired_revive]
      simp only [Arrival.handles, List.mem_cons, List.not_mem_nil, or_false] at hm
      rcases hm with rfl | rfl <;> simp
    nextWindow_eq := rfl
    recorded := ⟨_, rfl, rfl, rfl, rfl⟩
    noted := .of_cons rfl (.of_mem (List.mem_cons_self ..) rfl rfl) }
  have hlistening : server.handleNewToplevel toplevel surface =
      (created.2.addWindow toplevel surface created.1).2.listenAll
        (toplevelWiring ⟨server.nextWindow⟩ toplevel surface) := rfl
  rw [hlistening]
  exact hadded.listenAll

/-- A popup with a parent is listened to. -/
lemma newPopup (popup parent : Handle) :
    Arrived (.popup popup) server (server.handleNewPopup popup (some parent)).server := by
  have hcreated : Prepared (.popup popup) server
      ((server.revive popup).createPopupScene popup parent) := {
    callbacks_eq := fun _ _ => rfl
    coherent := fun c => c.revive popup
    check_eq := fun hm => check_revive _ hopen (.inl (List.mem_singleton.1 hm))
    nextWindow_eq := rfl
    recorded := rfl
    noted := .of_cons rfl (.of_mem (List.mem_singleton.2 rfl) rfl rfl) }
  have hlistening : (server.handleNewPopup popup (some parent)).server =
      ((server.revive popup).createPopupScene popup parent).listenAll (popupWiring popup) := rfl
  rw [hlistening]
  exact hcreated.listenAll

end Kinds

end Arrived

end Compositor.Server
