import Compositor.Proofs.Server.Turns

set_option autoImplicit false

/-!
# What a dispatch comes to

The callbacks of a dispatch are run in turn, and each knows by its number which window it is about.
If they are where they belong, only the windows of the event are unmapped or destroyed; if windows
have their callbacks, all of these are. This module follows a dispatch from callback to callback. A
dispatch by which nothing appears is a passage of steps that can be seen; if something appears,
nothing else happens.

## Main definitions

* `Server.Passage` — steps that can be seen, one after another.
* `Server.Settles`, `Server.Attended` — the callbacks on which the state of a window depends.
* `Server.Ready` — what a dispatch relies on.
* `Server.Moved` — what a dispatch comes to.

## Main results

* `Server.Passage.keeps`, `Server.Passage.led`, `Server.Passage.focusInFront` — what passages keep.
* `Server.Ready.moved` — what a dispatch comes to.
* `Server.Ready.settled` — what becomes of the windows of the event.
* `Server.Ready.attended` — the windows that are left have their callbacks.
-/

namespace Compositor.Server

variable {T : Type} [Toolkit T] {start server before after : Server T} {id : WindowId}
  {leaves : Handle → Bool} {handle : Handle} {signal : Signal} {event : Event}

/-! ## Passages -/

/-- What is left of the focus when surfaces leave. -/
def heldFocus (leaves : Handle → Bool) (server : Server T) : Option Handle :=
  (Toolkit.keyboardFocus server.toolkit).filter fun surface => !leaves surface

/-- All of the focus is left if no surface leaves. -/
lemma heldFocus_of_forall (hn : ∀ surface, leaves surface = false) (server : Server T) :
    heldFocus leaves server = Toolkit.keyboardFocus server.toolkit := by
  unfold heldFocus
  cases Toolkit.keyboardFocus server.toolkit with
  | none => rfl
  | some surface => simp [Option.filter_some, hn]

/-- A window that gets the focus has it. -/
lemma Focused.keyboardFocus_eq [KeepsFocus T] {face : Face} (h : Focused id face before after) :
    Toolkit.keyboardFocus after.toolkit = some face.surface := by
  rw [h.shown.keyboardFocus_eq]
  rfl

namespace Stirred

/-- A step that can be seen keeps all windows, and unmaps those that leave at most. -/
lemma keeps (h : Stirred leaves before after) : before.windows.Keeps leaves after.windows := by
  cases h with
  | still step => exact .alike step.alike
  | focused step _ => exact .fronted step.fronted
  | withdrawn step left _ => exact .withdrawn step left

/-- What a step does to the toolkit, it does by entries. -/
lemma led (h : Stirred leaves before after) :
    ∃ records, Led records before.toolkit after.toolkit := by
  cases h with
  | still step => exact step.shown.led
  | focused step _ => exact step.shown.led
  | withdrawn _ _ shown => exact shown.led

/-- What is left of the focus stays in front. -/
lemma focusInFront [KeepsFocus T] (h : Stirred leaves before after)
    (hf : before.windows.FocusInFront (heldFocus leaves before)) :
    after.windows.FocusInFront (heldFocus leaves after) := by
  cases h with
  | still step =>
    have hfocus : heldFocus leaves after = heldFocus leaves before :=
      congrArg (Option.filter _) step.shown.keyboardFocus_eq
    rw [hfocus]
    exact hf.alike step.alike
  | @focused id face step stays =>
    have hfocus : heldFocus leaves after = some face.surface := by
      rw [heldFocus, step.keyboardFocus_eq, Option.filter_some, stays]
      rfl
    rw [hfocus]
    exact .fronted step.fronted
  | withdrawn step left shown =>
    have hfocus : heldFocus leaves after = heldFocus leaves before :=
      congrArg (Option.filter _) shown.keyboardFocus_eq
    rw [hfocus]
    refine hf.withdrawn step fun face hface hs => ?_
    have hleft := left face hface
    obtain ⟨-, hstays⟩ := Option.filter_eq_some_iff.1 hs
    rw [hleft] at hstays
    cases hstays

end Stirred

/-- Steps that can be seen, from a given state on. -/
inductive Passage (leaves : Handle → Bool) (start : Server T) : Server T → Prop
  /-- There was no step yet. -/
  | start : Orderly start → Passage leaves start start
  /-- Another step is taken. -/
  | step {before after : Server T} : Passage leaves start before → Stirred leaves before after →
    Orderly after → Passage leaves start after

namespace Passage

/-- After a passage records and focus stack agree. -/
lemma orderly (h : Passage leaves start after) : Orderly after := by
  cases h <;> assumption

/-- A passage keeps all windows, and unmaps those that leave at most. -/
lemma keeps (h : Passage leaves start after) : start.windows.Keeps leaves after.windows := by
  induction h with
  | start _ => exact .refl _
  | step _ hstep _ ih => exact ih.trans hstep.keeps

/-- What a passage does to the toolkit, it does by entries. -/
lemma led (h : Passage leaves start after) :
    ∃ records, Led records start.toolkit after.toolkit := by
  induction h with
  | start _ => exact ⟨[], rfl⟩
  | step _ hstep _ ih =>
    obtain ⟨earlier, hearlier⟩ := ih
    obtain ⟨later, hlater⟩ := hstep.led
    exact ⟨later ++ earlier, hearlier.append hlater⟩

/-- After a passage what is left of the focus is in front, if it was before. -/
lemma focusInFront [KeepsFocus T] (h : Passage leaves start after)
    (hf : start.windows.FocusInFront (heldFocus leaves start)) :
    after.windows.FocusInFront (heldFocus leaves after) := by
  induction h with
  | start _ => exact hf
  | step _ hstep _ ih => exact hstep.focusInFront ih

end Passage

/-! ## The callbacks of a window -/

/-- The handlers on which it depends whether a window is mapped, given the objects of the window,
and what each of them makes of a window, if there still is a record. -/
inductive Settles (id : WindowId) (toplevel surface : Handle) :
    Handle → Signal → Handler → Option Bool → Prop
  /-- The window is mapped. -/
  | map : Settles id toplevel surface surface .map (.map id) (some true)
  /-- The window is unmapped. -/
  | unmap : Settles id toplevel surface surface .unmap (.unmap id) (some false)
  /-- The record is dropped. -/
  | destroy : Settles id toplevel surface toplevel .destroy (.toplevelDestroyed id) none

/-- A window with given objects has the callbacks on which its state depends. -/
def Attended (server : Server T) (id : WindowId) (toplevel surface : Handle) : Prop :=
  ∀ ⦃handle : Handle⦄ ⦃signal : Signal⦄ ⦃handler : Handler⦄ ⦃wanted : Option Bool⦄,
    Settles id toplevel surface handle signal handler wanted →
      .run handler ∈ server.registry.callbacks handle signal

/-- A window is as wanted, if there is a record. -/
def Settled (wanted : Option Bool) (id : WindowId) (table : WindowTable) : Prop :=
  ∀ face, table.face? id = some face → wanted = some face.mapped

section Settling

variable {toplevel surface : Handle} {handler : Handler} {wanted : Option Bool}

omit [Toolkit T] in
/-- Only the table matters. -/
lemma Settled.congr {table other : WindowTable} (h : Settled wanted id table)
    (he : other = table) : Settled wanted id other := he ▸ h

/-- A callback of the same signal goes without a fault and leaves a window as it is wanted. The one
that has to do with the window makes it so. -/
lemma Settles.runCallback (h : Settles id toplevel surface handle signal handler wanted)
    {other : Handle} {callback : Callback Handler} (hf : Fits start other signal callback)
    (server : Server T) (event : Event) :
    (server.runCallback event callback).result = .ok () ∧
      (Settled wanted id server.windows ∨ callback = .run handler →
        Settled wanted id (server.runCallback event callback).server.windows) := by
  cases callback with
  | retire object =>
    obtain ⟨-, rfl⟩ := hf
    have hwindows := (OnlyOutside.retire server object).windows_eq
    exact ⟨rfl, fun hs => (hs.resolve_right nofun).congr hwindows⟩
  | run ran =>
    obtain ⟨hsignal, -⟩ := hf
    cases h with
    | map =>
      cases ran with
      | map found =>
        refine ⟨rfl, fun hs face hface => ?_⟩
        replace hface : (server.handleMap found).windows.face? id = some face := hface
        rw [face?_handleMap] at hface
        split at hface <;> rename_i he
        · obtain ⟨shown, -, rfl⟩ := Option.map_eq_some_iff.1 hface
          rfl
        · exact hs.resolve_right (fun hr => he (by cases hr; rfl)) face hface
      | _ => cases hsignal
    | unmap =>
      cases ran with
      | unmap found =>
        refine ⟨rfl, fun hs face hface => ?_⟩
        replace hface : (server.handleUnmap found).windows.face? id = some face := hface
        rw [face?_handleUnmap] at hface
        split at hface <;> rename_i he
        · obtain ⟨shown, -, rfl⟩ := Option.map_eq_some_iff.1 hface
          rfl
        · exact hs.resolve_right (fun hr => he (by cases hr; rfl)) face hface
      | _ => cases hsignal
    | destroy =>
      cases ran with
      | toplevelDestroyed found =>
        refine ⟨rfl, fun hs face hface => ?_⟩
        replace hface : (server.handleToplevelDestroyed found).windows.face? id = some face := hface
        rw [windows_handleToplevelDestroyed_eq, WindowTable.face?_destroy] at hface
        split at hface <;> rename_i he
        · cases hface
        · exact hs.resolve_right (fun hr => he (by cases hr; rfl)) face hface
      | outputDestroyed output => exact ⟨rfl, fun hs => (hs.resolve_right nofun).congr rfl⟩
      | keyboardDestroyed device => exact ⟨rfl, fun hs => (hs.resolve_right nofun).congr rfl⟩
      | _ => cases hsignal

/-- The callbacks of a signal settle a window if one of them has to do with it. -/
lemma Settles.serve (h : Settles id toplevel surface handle signal handler wanted)
    {callbacks : List (Callback Handler)}
    (hf : ∀ callback ∈ callbacks, Fits server handle signal callback)
    (hm : .run handler ∈ callbacks) (event : Event) :
    Settled wanted id (server.serve event callbacks).server.windows := by
  have hstep : ∀ callback ∈ callbacks, ∀ current : Server T, True →
      (current.runCallback event callback).result = .ok () ∧ True ∧
      (Settled wanted id current.windows ∨ callback = .run handler →
        Settled wanted id (current.runCallback event callback).server.windows) := by
    intro callback hc current _
    obtain ⟨hresult, hsettled⟩ := h.runCallback (hf callback hc) current event
    exact ⟨hresult, trivial, hsettled⟩
  exact (serve_of_mem hstep trivial (.inr hm)).2.2

omit [Toolkit T] in
/-- A window keeps its callbacks if the listeners of neither object are released. -/
lemma Attended.ran {released : Option Handle} (h : Attended before id toplevel surface)
    (hr : Ran released before after) (hs : released ≠ some surface)
    (ht : released ≠ some toplevel) : Attended after id toplevel surface := by
  intro handle signal handler wanted hsettles
  have hm := h hsettles
  cases hsettles with
  | map => exact hr.mem_callbacks hm hs
  | unmap => exact hr.mem_callbacks hm hs
  | destroy => exact hr.mem_callbacks hm ht

omit [Toolkit T] in
/-- A new window has its callbacks. -/
lemma Attended.of_arrived (h : Arrived (.toplevel toplevel surface) before after) :
    Attended after ⟨before.nextWindow⟩ toplevel surface := by
  intro handle signal handler wanted hsettles
  rw [h.callbacks_eq]
  refine List.mem_append_right _ (mem_callbacksIn_iff.2 ?_)
  cases hsettles <;> simp [Arrival.wirings, toplevelWiring, Wiring.run]

omit [Toolkit T] in
/-- If no listeners are released, all windows have their callbacks. -/
lemma attended_of_ran (h : Ran none before after)
    (hall : ∀ id face, before.windows.face? id = some face →
      Attended before id face.toplevel face.surface) {face : Face}
    (hface : after.windows.face? id = some face) :
    Attended after id face.toplevel face.surface := by
  obtain ⟨window, hw, rfl⟩ := WindowTable.exists_of_face? hface
  have hkept {old : Window} (ho : before.windows.get? id = some old) :
      Attended after id old.toplevel old.surface :=
    (hall id _ (WindowTable.face?_of_get? ho)).ran h nofun nofun
  cases h with
  | steady step =>
    obtain ⟨old, ho, he⟩ := step.sameHandles.exists_of_get? hw
    have hattended := hkept ho
    rw [show old.toplevel = window.toplevel from congrArg Prod.fst he,
      show old.surface = window.surface from congrArg (fun handles => handles.2.1) he] at hattended
    exact hattended
  | arrived step _ =>
    rcases step.get?_cases hw with hold | hnew
    · exact hkept hold
    · obtain ⟨rfl, rfl⟩ := Arrival.toplevel_mem_residents_iff.1 hnew
      exact .of_arrived step

end Settling

/-! ## A dispatch without appearances -/

/-- What a dispatch relies on. -/
structure Ready (desktop : Desktop) (emission : Emission) (start : Server T) : Prop where
  /-- The tables of windows agree. -/
  orderly : Orderly start
  /-- The session has not ended. -/
  isOpen : start.registry.isShutDown = false
  /-- Windows share no objects. -/
  apart : start.windows.Apart
  /-- Windows have their callbacks. -/
  attended {id : WindowId} {face : Face} : start.windows.face? id = some face →
    Attended start id face.toplevel face.surface
  /-- What is left of the focus is in front. -/
  front : start.windows.FocusInFront (heldFocus (desktop.takes emission) start)
  /-- A window leaves by being unmapped or destroyed. -/
  takes_iff {id : WindowId} {face : Face} : start.windows.face? id = some face →
    (desktop.takes emission face.surface = true ↔
      emission.signal = .unmap ∧ face.surface = emission.handle ∨ emission.destroys face = true)
  /-- The surface of a window that is destroyed goes after the toplevel. -/
  toplevel_first {id : WindowId} {face : Face} : start.windows.face? id = some face →
    emission.signal = .destroy → face.surface = emission.handle → face.toplevel = emission.handle
  /-- A button of the pointer is pressed over mapped windows only. -/
  hits {time button : UInt32} {state : Press} : emission.event = .pointerButton time button state →
    ∀ place hit, Toolkit.surfaceAt
      (Toolkit.perform (.pointerButton time button state) start.toolkit) place = some hit →
    ∀ id window, start.windows.get? id = some window → Toolkit.toplevelOf
      (Toolkit.perform (.pointerButton time button state) start.toolkit) hit.surface =
        some window.toplevel → window.mapped = true

/-- A state in the course of a dispatch. The windows that are not being destroyed have their
callbacks. -/
structure Underway (desktop : Desktop) (emission : Emission) (start server : Server T) : Prop where
  /-- It was reached by steps that can be seen. -/
  passage : Passage (desktop.takes emission) start server
  /-- The session has not ended. -/
  isOpen : server.registry.isShutDown = false
  /-- Windows have their callbacks. -/
  attended {id : WindowId} {face : Face} : server.windows.face? id = some face →
    emission.destroys face = false → Attended server id face.toplevel face.surface

namespace Ready

variable {desktop : Desktop} {emission : Emission}

/-- A dispatch is underway when it begins. -/
lemma underway (r : Ready desktop emission start) : Underway desktop emission start start :=
  ⟨.start r.orderly, r.isOpen, fun hf _ => r.attended hf⟩

variable [KeepsFocus T] (r : Ready desktop emission start)
  (u : Underway desktop emission start server) {callback : Callback Handler}
  (hf : Fits server emission.handle emission.signal callback)

include r u hf

/-- What a callback is seen to do, unless its signal is a global object's. -/
lemma stirred (hg : emission.signal.isGlobal = false) :
    Stirred (desktop.takes emission) server
      (server.runCallback emission.event callback).server := by
  have hfront := u.passage.focusInFront r.front
  have hapart := r.apart.keeps u.passage.keeps
  have htakes {id : WindowId} {face : Face} (hface : server.windows.face? id = some face) :
      desktop.takes emission face.surface = true ↔ emission.signal = .unmap ∧
        face.surface = emission.handle ∨ emission.destroys face = true := by
    obtain ⟨mapped, hold, -⟩ := u.passage.keeps id face hface
    have hbefore := r.takes_iff hold
    exact hbefore
  cases callback with
  | retire object => exact .still (.retire server object)
  | run handler =>
    obtain ⟨hsignal, hwindow⟩ := hf
    have hglobal : handler.signal?.any Signal.isGlobal = false := by rwa [hsignal]
    by_cases hs : handler.isStill = true
    · exact .still (.run server hs emission.event)
    · cases handler with
      | map id =>
        have hn (surface : Handle) : desktop.takes emission surface = false := by
          unfold Desktop.takes
          rw [← Option.some.inj hsignal]
        rw [heldFocus_of_forall hn] at hfront
        exact .handleMap hn u.passage.orderly.agrees hfront hapart id
      | key device =>
        have hn (surface : Handle) : desktop.takes emission surface = false := by
          unfold Desktop.takes
          rw [← Option.some.inj hsignal]
        cases emission.event with
        | key time keycode state =>
          exact .handleKey hn u.passage.orderly.agrees device time keycode state
        | _ => exact .still (.refl server)
      | unmap id =>
        refine .handleUnmap server id fun face hface => (htakes hface).2 (.inl ?_)
        obtain ⟨window, hw, rfl⟩ := WindowTable.exists_of_face? hface
        exact ⟨(Option.some.inj hsignal).symm, (hwindow id _ rfl).2 window hw⟩
      | toplevelDestroyed id =>
        refine .handleToplevelDestroyed server id fun face hface => (htakes hface).2 (.inr ?_)
        obtain ⟨window, hw, rfl⟩ := WindowTable.exists_of_face? hface
        exact decide_eq_true ⟨(Option.some.inj hsignal).symm, (hwindow id _ rfl).2 window hw⟩
      | newToplevel => cases hglobal
      | newPopup => cases hglobal
      | button => cases hglobal
      | _ => exact absurd rfl hs

omit [KeepsFocus T] in
/-- The listeners that a callback releases are not those of a window that stays. -/
lemma released?_ne {id : WindowId} {face : Face} (hface : server.windows.face? id = some face)
    (hd : emission.destroys face = false) : server.released? callback ≠ some face.surface ∧
      server.released? callback ≠ some face.toplevel := by
  have hstays : emission.signal = .destroy → face.toplevel ≠ emission.handle :=
    fun hs ht => of_decide_eq_false hd ⟨hs, ht⟩
  unfold released?
  split
  · rename_i object
    obtain ⟨rfl, hs⟩ := hf
    obtain ⟨mapped, hold, -⟩ := u.passage.keeps id face hface
    have hfirst := r.toplevel_first hold hs
    exact ⟨fun he => hstays hs (hfirst (Option.some.inj he).symm),
      fun he => hstays hs (Option.some.inj he).symm⟩
  · rename_i other
    obtain ⟨hsignal, hwindow⟩ := hf
    cases hw : server.windows.get? other with
    | none => exact ⟨nofun, nofun⟩
    | some window =>
      have hgone : window.toplevel = emission.handle := (hwindow other _ rfl).2 window hw
      have hne : other ≠ id := by
        rintro rfl
        rw [WindowTable.face?_of_get? hw] at hface
        cases hface
        exact hstays (Option.some.inj hsignal).symm hgone
      have hapart := r.apart.keeps u.passage.keeps other id _ face
        (WindowTable.face?_of_get? hw) hface hne
      exact ⟨fun he => hapart.1 (Option.some.inj he), fun he => hapart.2 (Option.some.inj he)⟩
  · exact ⟨nofun, nofun⟩

/-- One callback. -/
lemma runCallback (hg : emission.signal.isGlobal = false) :
    Underway desktop emission start (server.runCallback emission.event callback).server := by
  have hstirred := r.stirred u hf hg
  have hran := Ran.runCallback u.isOpen emission.event callback
  refine ⟨u.passage.step hstirred (u.passage.orderly.runCallback _ _), ?_, ?_⟩
  · rw [hran.isShutDown_eq]
    exact u.isOpen
  · intro id face hface hd
    obtain ⟨mapped, hold, -⟩ := hstirred.keeps id face hface
    obtain ⟨hs, ht⟩ := r.released?_ne u hf hold hd
    have hattended := u.attended hold hd
    exact hattended.ran hran hs ht

omit hf in
/-- The callbacks of a signal that is not a global object's. -/
lemma serve (hg : emission.signal.isGlobal = false) {callbacks : List (Callback Handler)}
    (hf : ∀ callback ∈ callbacks, Fits server emission.handle emission.signal callback) :
    Underway desktop emission start (server.serve emission.event callbacks).server := by
  induction callbacks generalizing server with
  | nil => exact u
  | cons callback rest ih =>
    have hran := r.runCallback u (hf callback (List.mem_cons_self ..)) hg
    have hages := (Ran.runCallback u.isOpen emission.event callback).ages
    unfold Server.serve
    dsimp only
    split
    · exact hran
    · exact ih hran fun other ho => (hf other (List.mem_cons_of_mem _ ho)).ages hages

end Ready

/-! ## Every dispatch -/

/-- A signal of a global object runs its own handler or nothing. Windows are announced by the
shell. -/
lemma callbacksIn_globalWiring_of_isGlobal (toolkit : T) (hg : signal.isGlobal = true)
    (handle : Handle) : callbacksIn (globalWiring toolkit) handle signal = [] ∨
      ∃ handler, callbacksIn (globalWiring toolkit) handle signal = [.run handler] ∧
        handler.signal? = some signal ∧
        (signal = .newToplevel → handle = Toolkit.shell toolkit) := by
  have hnil (signal : Signal) : callbacksIn [] handle signal = [] := rfl
  cases signal <;> first
    | exact absurd hg (by decide)
    | (simp only [globalWiring, callbacksIn_cons, Wiring.run, Wiring.track, reduceCtorEq, and_false,
        and_true, ↓reduceIte, List.nil_append, List.append_nil, hnil]
       split <;> rename_i hh
       · exact .inr ⟨_, rfl, rfl, fun hs => by first | exact hh | cases hs⟩
       · exact .inl rfl)

/-- What a dispatch comes to: it is a passage, or a window or a popup appears. -/
inductive Moved (desktop : Desktop) (emission : Emission) (start after : Server T) : Prop
  /-- Nothing appears. -/
  | passed (passage : Passage (desktop.takes emission) start after)
  /-- A window appears that was announced. -/
  | appeared {id : WindowId} {face : Face} (signal : emission.signal = .newToplevel)
    (announced : desktop.announced? emission = some ⟨face.toplevel, face.surface, false⟩)
    (step : Appeared id face start after)
  /-- A popup appears. -/
  | popped {popup parent : Handle} (signal : emission.signal = .newPopup)
    (step : Popped popup parent start after)

/-- One callback is run. -/
lemma serve_singleton (server : Server T) (event : Event) (callback : Callback Handler) :
    (server.serve event [callback]).server = (server.runCallback event callback).server := by
  unfold serve
  dsimp only
  split <;> rfl

/-- A signal of a global object runs its own handler, or nothing. -/
lemma Placed.server_dispatch_of_isGlobal {origin : T} (p : Placed origin start)
    {emission : Emission} (hg : emission.signal.isGlobal = true) :
    (start.dispatch emission.handle emission.signal emission.event).server = start ∨
      ∃ handler : Handler, (start.dispatch emission.handle emission.signal emission.event).server =
          (handler.run emission.event start).server ∧ handler.signal? = some emission.signal ∧
        (emission.signal = .newToplevel → emission.handle = Toolkit.shell origin) := by
  have hdispatch : (start.dispatch emission.handle emission.signal emission.event).server =
      (start.serve emission.event
        (start.registry.callbacks emission.handle emission.signal)).server := rfl
  rcases p.global hg emission.handle with hc | hc
  · exact .inl (by rw [hdispatch, hc]; rfl)
  · rcases callbacksIn_globalWiring_of_isGlobal origin hg emission.handle with
      hc' | ⟨handler, hc', hs⟩
    · exact .inl (by rw [hdispatch, hc, hc']; rfl)
    · exact .inr ⟨handler, by rw [hdispatch, hc, hc', serve_singleton]; rfl, hs⟩

namespace Ready

variable [KeepsFocus T] {desktop : Desktop} {emission : Emission} {origin : T}

omit [KeepsFocus T] in
/-- What the handler of a global object's signal is seen to do. -/
lemma moved_of_isGlobal (r : Ready desktop emission start) (hg : emission.signal.isGlobal = true)
    {handler : Handler} (hs : handler.signal? = some emission.signal)
    (hshell : emission.signal = .newToplevel → emission.handle = desktop.shell) :
    Moved desktop emission start (handler.run emission.event start).server := by
  have hn (surface : Handle) : desktop.takes emission surface = false := by
    unfold Desktop.takes
    revert hg
    cases emission.signal <;> first | exact fun _ => rfl | exact nofun
  have hpassed {after : Server T} (o : Orderly after)
      (h : Stirred (desktop.takes emission) start after) : Moved desktop emission start after :=
    .passed (.step (.start r.orderly) h o)
  have hstill {after : Server T} (o : Orderly after) (h : Still start after) :
      Moved desktop emission start after := hpassed o (.still h)
  have horderly := r.orderly.run handler emission.event
  have hglobal : handler.signal?.any Signal.isGlobal = true := by rwa [hs]
  by_cases hh : handler.isStill = true
  · exact hstill horderly (.run start hh emission.event)
  · cases handler with
    | newToplevel =>
      have hsignal := (Option.some.inj hs).symm
      cases he : emission.event with
      | newToplevel toplevel surface =>
        refine .appeared hsignal ?_ (.handleNewToplevel r.orderly toplevel surface)
        unfold Desktop.announced?
        rw [he]
        exact if_pos (hshell hsignal)
      | _ => exact .passed (.start r.orderly)
    | newPopup =>
      cases emission.event with
      | newPopup popup parent =>
        cases parent with
        | none => exact .passed (.start r.orderly)
        | some parent =>
          exact .popped (Option.some.inj hs).symm (.handleNewPopup start popup parent)
      | _ => exact .passed (.start r.orderly)
    | button =>
      cases he : emission.event with
      | pointerButton time button state =>
        let forwarded := start.perform (.pointerButton time button state)
        have hforwarded : Still start forwarded := (Still.refl start).thenPerform _ rfl
        have hpassage : Passage (desktop.takes emission) start forwarded :=
          .step (.start r.orderly) (.still hforwarded) (r.orderly.perform _)
        rw [he] at horderly
        cases state with
        | released => exact hstill horderly (hforwarded.thenRest rfl rfl rfl)
        | pressed =>
          refine .passed (hpassage.step (.focusUnderCursor hn hpassage.orderly.agrees ?_) horderly)
          exact fun hit hhit => r.hits he _ hit hhit
      | _ => exact .passed (.start r.orderly)
    | map id => cases hglobal
    | unmap id => cases hglobal
    | toplevelDestroyed id => cases hglobal
    | key device => cases hglobal
    | _ => exact absurd rfl hh

/-- A signal of any other object runs callbacks that belong to it. -/
lemma underway_dispatch (r : Ready desktop emission start) (p : Placed origin start)
    (hg : emission.signal.isGlobal = false) : Underway desktop emission start
      (start.dispatch emission.handle emission.signal emission.event).server :=
  r.serve r.underway hg fun _ hc => p.fits hc

/-- **What a dispatch comes to.** It is a passage of steps that can be seen, or a window or a popup
appears and nothing else can be seen. -/
theorem moved (r : Ready desktop emission start) (p : Placed origin start)
    (hshell : Toolkit.shell origin = desktop.shell) : Moved desktop emission start
      (start.dispatch emission.handle emission.signal emission.event).server := by
  by_cases hg : emission.signal.isGlobal = true
  · rcases p.server_dispatch_of_isGlobal hg with hd | ⟨handler, hd, hs, hs'⟩
    · rw [hd]
      exact .passed (.start r.orderly)
    · rw [hd]
      exact r.moved_of_isGlobal hg hs fun he => (hs' he).trans hshell
  · exact .passed (r.underway_dispatch p (Bool.eq_false_iff.2 hg)).passage

omit [KeepsFocus T] in
/-- What becomes of a window whose state depends on the event. -/
lemma settled (r : Ready desktop emission start) (p : Placed origin start) {id : WindowId}
    {face : Face} {handler : Handler} {wanted : Option Bool}
    (hface : start.windows.face? id = some face)
    (hs : Settles id face.toplevel face.surface emission.handle emission.signal handler wanted) :
    Settled wanted id
      (start.dispatch emission.handle emission.signal emission.event).server.windows :=
  hs.serve (fun _ hc => p.fits hc) (r.attended hface hs) emission.event

/-- The windows that are left have their callbacks. -/
lemma attended_dispatch (r : Ready desktop emission start) (p : Placed origin start) {id : WindowId}
    {face : Face} (hface : (start.dispatch emission.handle emission.signal
      emission.event).server.windows.face? id = some face)
    (hd : emission.destroys face = false) :
    Attended (start.dispatch emission.handle emission.signal emission.event).server id
      face.toplevel face.surface := by
  by_cases hg : emission.signal.isGlobal = true
  · rcases p.server_dispatch_of_isGlobal hg with he | ⟨handler, he, hs, -⟩
    · rw [he] at hface ⊢
      exact r.attended hface
    · rw [he] at hface ⊢
      have hran := Ran.runCallback r.isOpen emission.event (.run handler)
      have hglobal : handler.signal?.any Signal.isGlobal = true := by rwa [hs]
      have hnone : start.released? (.run handler) = none := by
        cases handler with
        | toplevelDestroyed id => cases hglobal
        | _ => rfl
      rw [hnone] at hran
      exact attended_of_ran hran (fun _ _ => r.attended) hface
  · exact (r.underway_dispatch p (Bool.eq_false_iff.2 hg)).attended hface hd

end Ready

end Compositor.Server
