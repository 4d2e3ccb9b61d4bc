import Compositor.Proofs.Server.Coherence
import Compositor.Proofs.Server.Following
import Compositor.Proofs.Server.Residents

set_option autoImplicit false

/-!
# Where callbacks are

The server subscribes each of its handlers to one signal, and a handler that has to do with a window
to one of the two objects of that window. It tracks the lifetime of all that it listens to, the
cursor excepted. This holds however the values of objects are used again, since a callback that
outlives its window knows a number that is not used any more.

## Main definitions

* `Handler.window?` — the place of a handler at a window.
* `Server.Fits` — a callback is where it belongs.
* `Server.Driven` — the states of a server that events are dispatched to, up to the end of the
  session.
* `Server.Placed` — every callback is where it belongs, and every object but the cursor is tracked.

## Main results

* `Server.Ran.runCallback` — what one callback does to listeners and records.
* `Server.serve_of_mem` — what callbacks in turn achieve.
* `Server.Driven.placed` — callbacks are where they belong throughout.
* `Server.Driven.emitNative`, `Server.Driven.emitAll` — events of native listeners, and events in
  turn.
-/

namespace Compositor

/-- The window that a handler has to do with, and which of its objects the handler is subscribed
to. -/
def Handler.window? : Handler → Option (WindowId × (Window → Handle))
  | .map id => some (id, Window.surface)
  | .unmap id => some (id, Window.surface)
  | .commit id => some (id, Window.surface)
  | .toplevelDestroyed id => some (id, Window.toplevel)
  | .requestMove id => some (id, Window.toplevel)
  | .requestResize id => some (id, Window.toplevel)
  | _ => none

/-- Whether a signal is one of the global objects'. -/
def Signal.isGlobal : Signal → Bool
  | .newOutput | .newInput | .newToplevel | .newPopup | .requestSetCursor => true
  | signal => signal.isPointer

namespace Server

variable {T : Type} {server before after : Server T} {handle : Handle} {signal : Signal}
  {callback : Callback Handler}

/-! ## Callbacks and records as time goes by -/

/-- A callback of a pair is where it belongs. If it is to retire an object, it is that of the pair,
when it is destroyed. If it runs a handler, the signal is the handler's own; and if the handler has
to do with a window, the number of that window is used up, and a record under it names the object of
the pair. -/
def Fits (server : Server T) (handle : Handle) (signal : Signal) : Callback Handler → Prop
  | .retire other => other = handle ∧ signal = .destroy
  | .run handler => handler.signal? = some signal ∧
      ∀ id field, handler.window? = some (id, field) → id.number < server.nextWindow ∧
        ∀ window, server.windows.get? id = some window → field window = handle

/-- Numbers that are used up stay so, and a record under one of them was there before, with the same
handles. -/
structure Ages (before after : Server T) : Prop where
  /-- Numbers stay used up. -/
  nextWindow_le : before.nextWindow ≤ after.nextWindow
  /-- No record is put under a number that is used up. -/
  exists_of_get? {id : WindowId} {window : Window} : id.number < before.nextWindow →
    after.windows.get? id = some window →
      ∃ old, before.windows.get? id = some old ∧ old.handles = window.handles

/-- What a callback has to do with a record is seen in the handles of the record. -/
lemma field_eq_of_handles_eq {handler : Handler} {id : WindowId} {field : Window → Handle}
    (h : handler.window? = some (id, field)) {old window : Window}
    (he : old.handles = window.handles) : field old = field window := by
  obtain ⟨ht, hs, -⟩ : old.toplevel = window.toplevel ∧ old.surface = window.surface ∧
    old.scene = window.scene := by simpa [Window.handles] using he
  unfold Handler.window? at h
  split at h <;> cases h <;> assumption

/-- Where a callback belongs does not change. -/
lemma Fits.ages (h : Fits before handle signal callback) (ha : Ages before after) :
    Fits after handle signal callback := by
  cases callback with
  | retire other => exact h
  | run handler =>
    obtain ⟨hsignal, hwindow⟩ := h
    refine ⟨hsignal, fun id field hf => ?_⟩
    obtain ⟨hid, hrecord⟩ := hwindow id field hf
    refine ⟨Nat.lt_of_lt_of_le hid ha.nextWindow_le, fun window hw => ?_⟩
    obtain ⟨old, ho, he⟩ := ha.exists_of_get? hid hw
    rw [← field_eq_of_handles_eq hf he]
    exact hrecord old ho

/-- A handler that has nothing to do with windows is at its signal. -/
lemma Fits.of_window?_eq_none {handler : Handler} (hs : handler.signal? = some signal)
    (hw : handler.window? = none) : Fits server handle signal (.run handler) :=
  ⟨hs, fun id field hf => by simp [hw] at hf⟩

/-! ## What is subscribed -/

/-- The callbacks that wirings add are those in them. -/
lemma mem_callbacksIn_iff {wirings : List Wiring} :
    callback ∈ callbacksIn wirings handle signal ↔ ⟨handle, signal, callback⟩ ∈ wirings := by
  unfold callbacksIn
  rw [List.mem_map]
  constructor
  · rintro ⟨wiring, hm, rfl⟩
    obtain ⟨hin, hpair⟩ := List.mem_filter.1 hm
    obtain ⟨rfl, rfl⟩ := of_decide_eq_true hpair
    exact hin
  · intro hm
    exact ⟨_, List.mem_filter.2 ⟨hm, decide_eq_true ⟨rfl, rfl⟩⟩, rfl⟩

namespace Arrival

variable {id : WindowId} {arrival : Arrival}

/-- Announced objects that are listened to are tracked. -/
lemma track_mem_of_mem_wirings {wiring : Wiring} (h : wiring ∈ arrival.wirings id) :
    Wiring.track wiring.handle ∈ arrival.wirings id := by
  unfold wirings at h ⊢
  split at h
  all_goals
    simp only [outputWiring, keyboardWiring, toplevelWiring, popupWiring, List.mem_cons,
      List.not_mem_nil, or_false] at h
  · rcases h with rfl | rfl | rfl | rfl <;> simp [outputWiring, Wiring.run, Wiring.track]
  · rcases h with rfl | rfl | rfl | rfl <;> simp [keyboardWiring, Wiring.run, Wiring.track]
  · rcases h with rfl | rfl | rfl | rfl | rfl | rfl | rfl | rfl <;>
      simp [toplevelWiring, Wiring.run, Wiring.track]
  · rcases h with rfl | rfl <;> simp [popupWiring, Wiring.run, Wiring.track]

/-- Announced objects are not listened to for signals of global objects. -/
lemma isGlobal_of_mem_wirings {wiring : Wiring} (h : wiring ∈ arrival.wirings id) :
    wiring.signal.isGlobal = false := by
  unfold wirings at h
  split at h
  all_goals
    simp only [outputWiring, keyboardWiring, toplevelWiring, popupWiring, List.mem_cons,
      List.not_mem_nil, or_false] at h
  · rcases h with rfl | rfl | rfl | rfl <;> rfl
  · rcases h with rfl | rfl | rfl | rfl <;> rfl
  · rcases h with rfl | rfl | rfl | rfl | rfl | rfl | rfl | rfl <;> rfl
  · rcases h with rfl | rfl <;> rfl

/-- Nothing is run for announced objects by the signals of global objects. -/
lemma callbacksIn_of_isGlobal (h : signal.isGlobal = true) (handle : Handle) :
    callbacksIn (arrival.wirings id) handle signal = [] := by
  rw [List.eq_nil_iff_forall_not_mem]
  intro callback hm
  have hg := isGlobal_of_mem_wirings (mem_callbacksIn_iff.1 hm)
  rw [h] at hg
  cases hg

end Arrival

/-- The wirings of announced objects are where they belong. -/
lemma Arrived.fits_of_mem {arrival : Arrival} (h : Arrived arrival before after)
    (hm : callback ∈ callbacksIn (arrival.wirings ⟨before.nextWindow⟩) handle signal) :
    Fits after handle signal callback := by
  rw [mem_callbacksIn_iff] at hm
  cases arrival with
  | output object =>
    simp only [Arrival.wirings, outputWiring, Wiring.run, Wiring.track, List.mem_cons,
      Wiring.mk.injEq, List.not_mem_nil, or_false] at hm
    rcases hm with ⟨rfl, rfl, rfl⟩ | ⟨rfl, rfl, rfl⟩ | ⟨rfl, rfl, rfl⟩ | ⟨rfl, rfl, rfl⟩
    · exact .of_window?_eq_none rfl rfl
    · exact .of_window?_eq_none rfl rfl
    · exact .of_window?_eq_none rfl rfl
    · exact ⟨rfl, rfl⟩
  | device object kind =>
    cases kind with
    | keyboard =>
      simp only [Arrival.wirings, keyboardWiring, Wiring.run, Wiring.track, List.mem_cons,
        Wiring.mk.injEq, List.not_mem_nil, or_false] at hm
      rcases hm with ⟨rfl, rfl, rfl⟩ | ⟨rfl, rfl, rfl⟩ | ⟨rfl, rfl, rfl⟩ | ⟨rfl, rfl, rfl⟩
      · exact .of_window?_eq_none rfl rfl
      · exact .of_window?_eq_none rfl rfl
      · exact .of_window?_eq_none rfl rfl
      · exact ⟨rfl, rfl⟩
    | _ => cases hm
  | popup object =>
    simp only [Arrival.wirings, popupWiring, Wiring.run, Wiring.track, List.mem_cons,
      Wiring.mk.injEq, List.not_mem_nil, or_false] at hm
    rcases hm with ⟨rfl, rfl, rfl⟩ | ⟨rfl, rfl, rfl⟩
    · exact .of_window?_eq_none rfl rfl
    · exact ⟨rfl, rfl⟩
  | toplevel object root =>
    have hn : after.nextWindow = before.nextWindow + 1 := h.nextWindow_eq
    obtain ⟨added, ht, ha, hobject, hroot⟩ := h.recorded
    have hget : after.windows.get? ⟨before.nextWindow⟩ = some added := by
      rw [ht, WindowTable.get?_insert, ha, if_pos rfl]
    have hfits {handler : Handler} {kind : Signal} {field : Window → Handle}
        (hk : handler.signal? = some kind)
        (hf : handler.window? = some (⟨before.nextWindow⟩, field)) :
        Fits after (field added) kind (.run handler) := by
      refine ⟨hk, fun id other hother => ?_⟩
      rw [hf] at hother
      cases hother
      refine ⟨hn ▸ Nat.lt_succ_self _, fun window hw => ?_⟩
      rw [hget] at hw
      cases hw
      rfl
    subst hobject hroot
    simp only [Arrival.wirings, toplevelWiring, Wiring.run, Wiring.track, List.mem_cons,
      Wiring.mk.injEq, List.not_mem_nil, or_false] at hm
    rcases hm with ⟨rfl, rfl, rfl⟩ | ⟨rfl, rfl, rfl⟩ | ⟨rfl, rfl, rfl⟩ | ⟨rfl, rfl, rfl⟩ |
      ⟨rfl, rfl, rfl⟩ | ⟨rfl, rfl, rfl⟩ | ⟨rfl, rfl, rfl⟩ | ⟨rfl, rfl, rfl⟩
    · exact hfits rfl rfl
    · exact hfits rfl rfl
    · exact hfits rfl rfl
    · exact hfits rfl rfl
    · exact hfits rfl rfl
    · exact hfits rfl rfl
    · exact ⟨rfl, rfl⟩
    · exact ⟨rfl, rfl⟩

/-! ## What one callback does -/

/-- The object whose listeners a callback releases. The end of a window releases those of the
surface in its record. -/
def released? (server : Server T) : Callback Handler → Option Handle
  | .retire handle => some handle
  | .run (.toplevelDestroyed id) => (server.windows.get? id).map Window.surface
  | .run _ => none

/-- What one callback can do to the listeners and the records, given the object whose listeners it
releases. -/
inductive Ran : Option Handle → Server T → Server T → Prop
  /-- They stay, but for what records say besides handles. -/
  | steady {own : List Handle} {before after : Server T} (step : Steady own before after) :
    Ran none before after
  /-- Objects are announced. -/
  | arrived {announced : Arrival} {before after : Server T} (step : Arrived announced before after)
    (open_eq : after.registry.isShutDown = before.registry.isShutDown) : Ran none before after
  /-- The listeners of an object are released, and perhaps a record is dropped. -/
  | released (object : Handle) {before after : Server T}
    (callbacks_eq : ∀ handle signal, after.registry.callbacks handle signal =
      if handle = object then [] else before.registry.callbacks handle signal)
    (open_eq : after.registry.isShutDown = before.registry.isShutDown)
    (records : ∀ id window, after.windows.get? id = some window →
      before.windows.get? id = some window)
    (nextWindow_eq : after.nextWindow = before.nextWindow) : Ran (some object) before after

variable {released : Option Handle}

/-- Whatever a callback does, numbers that are used up stay so. -/
lemma Ran.ages (h : Ran released before after) : Ages before after := by
  cases h with
  | steady step =>
    exact ⟨Nat.le_of_eq step.nextWindow_eq.symm, fun _ hw => step.sameHandles.exists_of_get? hw⟩
  | arrived step _ =>
    refine ⟨?_, fun {id window} hid hw => ⟨window, ?_, rfl⟩⟩
    · rw [step.nextWindow_eq]
      exact Nat.le_add_right _ _
    · rcases step.get?_cases hw with hold | hnew
      · exact hold
      · rw [(Arrival.toplevel_mem_residents_iff.1 hnew).2] at hid
        exact absurd hid (Nat.lt_irrefl _)
  | released _ _ _ records nextWindow_eq =>
    exact ⟨Nat.le_of_eq nextWindow_eq.symm,
      fun {id window} _ hw => ⟨window, records id window hw, rfl⟩⟩

/-- Callbacks of other objects stay. -/
lemma Ran.mem_callbacks (h : Ran released before after)
    (hm : callback ∈ before.registry.callbacks handle signal) (hn : released ≠ some handle) :
    callback ∈ after.registry.callbacks handle signal := by
  cases h with
  | steady step => rwa [step.registry_eq]
  | arrived step _ =>
    rw [step.callbacks_eq]
    exact List.mem_append_left _ hm
  | released object callbacks_eq _ _ _ =>
    rwa [callbacks_eq, if_neg fun he => hn (congrArg some he.symm)]

/-- No callback ends the session. -/
lemma Ran.isShutDown_eq (h : Ran released before after) :
    after.registry.isShutDown = before.registry.isShutDown := by
  cases h with
  | steady step => rw [step.registry_eq]
  | arrived _ open_eq => exact open_eq
  | released _ _ open_eq => exact open_eq

variable [Toolkit T]

/-- The global objects are tracked, but for the cursor. -/
lemma track_mem_of_mem_globalWiring {toolkit : T} {wiring : Wiring}
    (h : wiring ∈ globalWiring toolkit) :
    Wiring.track wiring.handle ∈ globalWiring toolkit ∨
      wiring.handle = Toolkit.cursor toolkit ∧ wiring.signal.isPointer = true := by
  simp only [globalWiring, List.mem_cons, List.not_mem_nil, or_false] at h
  rcases h with rfl | rfl | rfl | rfl | rfl | rfl | rfl | rfl | rfl | rfl | rfl | rfl | rfl
  all_goals first
    | exact .inr ⟨rfl, rfl⟩
    | exact .inl (by simp [globalWiring, Wiring.run, Wiring.track])

/-- A registration does not shut the registry down. -/
lemma isShutDown_register (server : Server T) (handle : Handle) (signal : Signal)
    (callback : Callback Handler) :
    (server.register handle signal callback).2.registry.isShutDown =
      server.registry.isShutDown := by
  unfold register
  split
  · rfl
  · split <;> rename_i ha
    · exact (Registry.marks_append ha).2.1
    · rfl

/-- Wirings do not shut the registry down. -/
lemma isShutDown_listenAll (server : Server T) (wirings : List Wiring) :
    (server.listenAll wirings).registry.isShutDown = server.registry.isShutDown := by
  induction wirings generalizing server with
  | nil => rfl
  | cons wiring rest ih => exact (ih _).trans (isShutDown_register server _ _ _)

namespace Ran

/-- Retiring releases the handle, and leaves the windows as they are. -/
lemma retire (server : Server T) (handle : Handle) :
    Ran (some handle) server (server.retire handle) := by
  refine .released handle (fun other signal => ?_) ?_ (fun id window hw => ?_) ?_
  · rw [registry_retire, Registry.callbacks_retire]
  · rw [registry_retire]
    rfl
  · rwa [(OnlyOutside.retire _ _).windows_eq] at hw
  · exact (OnlyOutside.retire _ _).nextWindow_eq

/-- The destruction of a window releases the listeners of the surface in its record. Without a
record there is nothing to do. -/
lemma handleToplevelDestroyed (server : Server T) (id : WindowId) :
    Ran ((server.windows.get? id).map Window.surface) server
      (server.handleToplevelDestroyed id) := by
  cases hw : server.windows.get? id with
  | none =>
    have hdropped : server.handleToplevelDestroyed id =
        { server.releaseGrab id with windows := server.windows.destroy id } := by
      unfold Server.handleToplevelDestroyed
      dsimp only
      rw [show (server.releaseGrab id).windows.get? id = none from hw]
      rfl
    have hsame : server.windows.SameHandles (server.windows.destroy id) := by
      refine .of_get?_eq fun other => ?_
      rw [WindowTable.get?_destroy]
      split <;> rename_i ho
      · rw [ho, hw]
      · rfl
    have hstep : Steady [] server (server.handleToplevelDestroyed id) := by
      rw [hdropped]
      exact ((Steady.refl server).thenWindows hsame).thenRest rfl rfl rfl rfl
    exact .steady hstep
  | some window =>
    refine .released window.surface (fun other signal => ?_) ?_ (fun other found hf => ?_) ?_
    · rw [registry_handleToplevelDestroyed hw, Registry.callbacks_take]
    · rw [registry_handleToplevelDestroyed hw]
      rfl
    · rw [windows_handleToplevelDestroyed hw, WindowTable.get?_destroy] at hf
      split at hf
      · cases hf
      · exact hf
    · exact nextWindow_handleToplevelDestroyed hw

/-- One callback, whatever the event and whether or not it ends by a fault, as long as the session
lasts. -/
theorem runCallback (hopen : server.registry.isShutDown = false) (event : Event)
    (callback : Callback Handler) :
    Ran (server.released? callback) server (server.runCallback event callback).server := by
  cases callback with
  | retire handle => exact retire server handle
  | run handler =>
    by_cases hs : handler.isSteady = true
    · have hnone : server.released? (.run handler) = none := by
        cases handler <;> first | rfl | cases hs
      rw [hnone]
      exact .steady (.run server handler hs (fun _ ho => Option.mem_toList.2 ho) event)
    · have hstill : Steady [] server server := .refl server
      have hrefl : Ran none server server := .steady hstill
      cases handler with
      | newOutput =>
        cases event with
        | newOutput output => exact .arrived (.newOutput hopen output) (isShutDown_listenAll _ _)
        | _ => exact hrefl
      | newInput =>
        cases event with
        | newInput device kind =>
          refine .arrived (.newInput hopen device kind) ?_
          cases kind <;> first | rfl | exact isShutDown_listenAll _ _
        | _ => exact hrefl
      | newToplevel =>
        cases event with
        | newToplevel toplevel surface =>
          exact .arrived (.newToplevel hopen toplevel surface) (isShutDown_listenAll _ _)
        | _ => exact hrefl
      | newPopup =>
        cases event with
        | newPopup popup parent =>
          cases parent with
          | none => exact hrefl
          | some parent =>
            exact .arrived (.newPopup hopen popup parent) (isShutDown_listenAll _ _)
        | _ => exact hrefl
      | toplevelDestroyed id => exact handleToplevelDestroyed server id
      | _ => exact absurd rfl hs

end Ran

/-- **Callbacks in turn.** If all of them go without a fault and keep an invariant, one of them
achieves something, and no other undoes it, then all go without a fault and it is achieved in the
end. -/
lemma serve_of_mem {invariant achieved : Server T → Prop} {event : Event}
    {chosen : Callback Handler} {callbacks : List (Callback Handler)}
    (hstep : ∀ callback ∈ callbacks, ∀ server : Server T, invariant server →
      (server.runCallback event callback).result = .ok () ∧
      invariant (server.runCallback event callback).server ∧
      (achieved server ∨ callback = chosen →
        achieved (server.runCallback event callback).server))
    (hi : invariant server) (hm : achieved server ∨ chosen ∈ callbacks) :
    (server.serve event callbacks).result = .ok () ∧
      invariant (server.serve event callbacks).server ∧
      achieved (server.serve event callbacks).server := by
  induction callbacks generalizing server with
  | nil => exact ⟨rfl, hi, hm.resolve_right (List.not_mem_nil)⟩
  | cons callback rest ih =>
    obtain ⟨hresult, hkept, hachieved⟩ := hstep callback (List.mem_cons_self ..) server hi
    unfold Server.serve
    dsimp only
    rw [hresult]
    refine ih (fun other ho => hstep other (List.mem_cons_of_mem _ ho)) hkept ?_
    rcases hm with hm | hm
    · exact .inl (hachieved (.inl hm))
    · rcases List.mem_cons.1 hm with rfl | hm
      · exact .inl (hachieved (.inr rfl))
      · exact .inr hm

/-! ## Every callback is where it belongs -/

/-- Every callback is where it belongs, and every object that is listened to is tracked, unless it
is the cursor and the signals are the cursor's. The global objects are those of a given toolkit. -/
structure Placed (origin : T) (server : Server T) : Prop where
  /-- The tables of the registry agree. -/
  coherent : server.registry.Coherent
  /-- The session has not ended. -/
  isOpen : server.registry.isShutDown = false
  /-- Callbacks are where they belong. -/
  fits {handle : Handle} {signal : Signal} {callback : Callback Handler} :
    callback ∈ server.registry.callbacks handle signal → Fits server handle signal callback
  /-- The signals of global objects run what they should, or nothing any more. -/
  global {signal : Signal} : signal.isGlobal = true → ∀ handle,
    server.registry.callbacks handle signal = [] ∨
      server.registry.callbacks handle signal = callbacksIn (globalWiring origin) handle signal
  /-- What is listened to is tracked. -/
  tracked {handle : Handle} {signal : Signal} : server.registry.callbacks handle signal ≠ [] →
    .retire handle ∈ server.registry.callbacks handle .destroy ∨
      handle = Toolkit.cursor origin ∧ signal.isPointer = true

namespace Placed

variable {origin : T}

/-- What one callback does leaves all callbacks where they belong. -/
lemma ran (p : Placed origin before) (c : after.registry.Coherent) (h : Ran released before after) :
    Placed origin after := by
  have hages := h.ages
  have hopen := h.isShutDown_eq.trans p.isOpen
  cases h with
  | steady step =>
    have hregistry := step.registry_eq
    exact {
      coherent := c
      isOpen := hopen
      fits := fun hm => (p.fits (hregistry ▸ hm)).ages hages
      global := fun hg handle => by
        rw [hregistry]
        exact p.global hg handle
      tracked := fun {handle signal} => by
        rw [hregistry]
        exact p.tracked }
  | arrived step _ =>
    exact {
      coherent := c
      isOpen := hopen
      fits := fun {handle signal callback} hm => by
        rw [step.callbacks_eq, List.mem_append] at hm
        rcases hm with hold | hnew
        · exact (p.fits hold).ages hages
        · exact step.fits_of_mem hnew
      global := fun hg handle => by
        rw [step.callbacks_eq, Arrival.callbacksIn_of_isGlobal hg, List.append_nil]
        exact p.global hg handle
      tracked := fun {handle signal} hne => by
        rw [step.callbacks_eq, List.mem_append]
        obtain ⟨callback, hm⟩ := List.exists_mem_of_ne_nil _ hne
        rw [step.callbacks_eq, List.mem_append] at hm
        rcases hm with hold | hnew
        · exact (p.tracked (List.ne_nil_of_mem hold)).imp_left .inl
        · have htrack := Arrival.track_mem_of_mem_wirings (mem_callbacksIn_iff.1 hnew)
          exact .inl (.inr (mem_callbacksIn_iff.2 htrack)) }
  | released object callbacks_eq _ _ _ =>
    exact {
      coherent := c
      isOpen := hopen
      fits := fun {handle signal callback} hm => by
        rw [callbacks_eq] at hm
        split at hm
        · cases hm
        · exact (p.fits hm).ages hages
      global := fun hg handle => by
        rw [callbacks_eq]
        split
        · exact .inl rfl
        · exact p.global hg handle
      tracked := fun {handle signal} hne => by
        rw [callbacks_eq] at hne ⊢
        split at hne <;> rename_i ho
        · exact absurd rfl hne
        · rw [if_neg ho]
          exact p.tracked hne }

/-- Callbacks stay where they belong when one of them runs. -/
lemma runCallback (p : Placed origin server) (event : Event) (callback : Callback Handler) :
    Placed origin (server.runCallback event callback).server :=
  p.ran (Coherent.runCallback p.coherent event callback) (.runCallback p.isOpen event callback)

/-- Callbacks stay where they belong when several run in turn, also if one ends by a fault. -/
lemma serve (p : Placed origin server) (event : Event) (callbacks : List (Callback Handler)) :
    Placed origin (server.serve event callbacks).server := by
  induction callbacks generalizing server with
  | nil => exact p
  | cons callback rest ih =>
    have hran := p.runCallback event callback
    unfold Server.serve
    dsimp only
    split
    · exact hran
    · exact ih hran

end Placed

/-- What is listened to on the global objects is where it belongs. -/
lemma fits_of_mem_globalWiring {toolkit : T}
    (h : ⟨handle, signal, callback⟩ ∈ globalWiring toolkit) :
    Fits server handle signal callback := by
  simp only [globalWiring, Wiring.run, Wiring.track, List.mem_cons, Wiring.mk.injEq,
    List.not_mem_nil, or_false] at h
  rcases h with ⟨rfl, rfl, rfl⟩ | ⟨rfl, rfl, rfl⟩ | ⟨rfl, rfl, rfl⟩ | ⟨rfl, rfl, rfl⟩ |
    ⟨rfl, rfl, rfl⟩ | ⟨rfl, rfl, rfl⟩ | ⟨rfl, rfl, rfl⟩ | ⟨rfl, rfl, rfl⟩ | ⟨rfl, rfl, rfl⟩ |
    ⟨rfl, rfl, rfl⟩ | ⟨rfl, rfl, rfl⟩ | ⟨rfl, rfl, rfl⟩ | ⟨rfl, rfl, rfl⟩
  all_goals first
    | exact .of_window?_eq_none rfl rfl
    | exact ⟨rfl, rfl⟩

/-- A new server has placed its callbacks at the global objects. -/
lemma placed_of_create {toolkit : T} {config : Config} {display : Option String}
    (h : create toolkit config display = .ok server) :
    Placed (Toolkit.perform (.loadCursorTheme config.cursor.theme config.cursor.size) toolkit)
      server := by
  obtain ⟨bindings, hw⟩ := Wired.of_create h
  set origin := Toolkit.perform (.loadCursorTheme config.cursor.theme config.cursor.size) toolkit
  have hcallbacks (handle : Handle) (signal : Signal) : server.registry.callbacks handle signal =
      callbacksIn (globalWiring origin) handle signal := by
    rw [hw.callbacks_eq]
    exact congrArg (· ++ _) (Registry.callbacks_empty handle signal)
  have hcoherent : server.registry.Coherent := hw.coherent .empty
  have hmotion : server.registry.callbacks (Toolkit.cursor origin) .motion ≠ [] := by
    have hm : Callback.run .motion ∈
        callbacksIn (globalWiring origin) (Toolkit.cursor origin) .motion :=
      mem_callbacksIn_iff.2 (by simp [globalWiring, Wiring.run])
    rw [hcallbacks]
    exact List.ne_nil_of_mem hm
  exact {
    coherent := hcoherent
    isOpen := hcoherent.isShutDown_eq_false hmotion
    fits := fun {handle signal callback} hm => by
      rw [hcallbacks, mem_callbacksIn_iff] at hm
      exact fits_of_mem_globalWiring hm
    global := fun _ handle => .inr (hcallbacks handle _)
    tracked := fun {handle signal} hne => by
      obtain ⟨callback, hm⟩ := List.exists_mem_of_ne_nil _ hne
      rw [hcallbacks, mem_callbacksIn_iff] at hm
      rw [hcallbacks, mem_callbacksIn_iff]
      exact track_mem_of_mem_globalWiring hm }

/-! ## The states of a session -/

/-- The states of a server that events are dispatched to, from its creation to the end of the
session. The toolkit gave it the global objects of `origin`, and may change by itself at any
time. -/
inductive Driven (origin : T) : Server T → Prop
  /-- A server is built. -/
  | create {toolkit : T} {config : Config} {display : Option String} {server : Server T} :
    Server.create toolkit config display = .ok server →
      Toolkit.perform (.loadCursorTheme config.cursor.theme config.cursor.size) toolkit = origin →
      Driven origin server
  /-- An event is dispatched, by whoever it is about and whatever its payload. -/
  | emit {server : Server T} (emission : Emission) : Driven origin server →
    Driven origin (server.dispatch emission.handle emission.signal emission.event).server
  /-- A call is made that has nothing to do with listeners. -/
  | call {server : Server T} (call : Call) : Driven origin server → call.isSteady = true →
    Driven origin (server.call call).server
  /-- The toolkit changes by itself, so that its next answers may be any. -/
  | toolkit {server : Server T} (toolkit : T) : Driven origin server →
    Driven origin { server with toolkit := toolkit }

namespace Driven

variable {origin : T}

/-- The states of a session can be reached. -/
lemma reachable (h : Driven origin server) : Reachable server [] := by
  induction h with
  | create hc _ => exact .create hc
  | emit emission _ ih => exact .call (.emit emission.handle emission.signal emission.event) ih
  | call call _ _ ih => exact .call call ih
  | toolkit toolkit _ ih => exact .toolkit toolkit ih

/-- **Every callback is where it belongs, and every object but the cursor is tracked**, in every
state up to the end of the session. -/
theorem placed (h : Driven origin server) : Placed origin server := by
  induction h with
  | create hc ho =>
    subst ho
    exact placed_of_create hc
  | emit emission _ ih => exact ih.serve _ _
  | @call server call _ hs ih =>
    have hstep := Steady.call server hs
    exact ih.ran (Coherent.call ih.coherent call) (.steady hstep)
  | @toolkit server toolkit _ ih =>
    have hstep : Steady [] server { server with toolkit := toolkit } := .of_toolkit server toolkit
    exact ih.ran ih.coherent (.steady hstep)

/-- The event of a native listener is that of its pair. -/
lemma emitNative (h : Driven origin server) (token : Token) (event : Event) :
    Driven origin (server.dispatchNative token event).server := by
  unfold dispatchNative
  split
  · exact .emit ⟨_, _, event⟩ h
  · exact h

/-- Events in turn. -/
lemma emitAll (h : Driven origin server) (emissions : List Emission) :
    Driven origin (server.emitAll emissions) := by
  unfold Server.emitAll
  induction emissions generalizing server with
  | nil => exact h
  | cons emission rest ih => exact ih (.emit emission h)

end Driven

end Server

end Compositor
