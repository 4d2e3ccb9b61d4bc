import Compositor.Proofs.Server.Devices
import Compositor.Proofs.Server.Holding
import Compositor.Proofs.Server.Payloads

set_option autoImplicit false

/-!
# Payloads that do not belong to their signal

A payload says by its kind which signal it belongs to. A handler that gets one of another signal
must not go on, and ends the dispatch by a fault. Every handler that reads its payload does so but
one: that of a popup's commits waits for the first commit and lets everything else pass.

## Main definitions

* `Event.signal?` — the signal that a payload belongs to.
* `Signal.isRead`, `Handler.insists` — the signals with a payload that is read, and the handlers
  that accept no other.

## Main results

* `Handler.run_of_insists` — such a handler ends by a fault and does nothing else.
* `Server.serve_of_misfit` — callbacks at the signal, run in turn.
* `Server.misfit_faults_iff_insists` — a misfit in a reachable state.
* `Server.exists_misfit_ignored` — a popup does not mind.
-/

namespace Compositor

/-- The signal that a payload belongs to. -/
def Event.signal? : Event → Option Signal
  | .empty => none
  | .newOutput _ => some .newOutput
  | .outputRequestState _ => some .requestState
  | .newInput _ _ => some .newInput
  | .newToplevel _ _ => some .newToplevel
  | .newPopup _ _ => some .newPopup
  | .commit _ => some .commit
  | .requestMove _ => some .requestMove
  | .requestResize _ _ => some .requestResize
  | .pointerMotion _ _ _ => some .motion
  | .pointerMotionAbsolute _ _ _ => some .motionAbsolute
  | .pointerButton _ _ _ => some .button
  | .pointerAxis _ => some .axis
  | .key _ _ _ => some .key
  | .requestSetCursor _ _ _ => some .requestSetCursor

/-- Whether the handlers of a signal read its payload. -/
def Signal.isRead : Signal → Bool
  | .newOutput | .newInput | .newToplevel | .newPopup | .commit | .requestResize | .requestState
  | .motion | .motionAbsolute | .button | .axis | .key | .requestSetCursor => true
  | _ => false

namespace Handler

/-- Whether a handler reads its payload and accepts none of another signal. -/
def insists : Handler → Bool
  | .popupCommit _ => false
  | handler => handler.signal?.any Signal.isRead

variable {T : Type} [Toolkit T] {handler : Handler} {signal : Signal} {event : Event}

/-- A handler that insists on a payload has a signal of its own. -/
lemma exists_signal_of_insists (hi : handler.insists = true) :
    ∃ own, handler.signal? = some own := by
  cases handler with
  | observe label => cases hi
  | _ => exact ⟨_, rfl⟩

/-- A handler that insists on its payload ends by a fault if it gets another, and does nothing
else. -/
lemma run_of_insists (hi : handler.insists = true) (hs : handler.signal? = some signal)
    (he : event.signal? ≠ some signal) (server : Server T) :
    handler.run event server = server.fail (.unexpectedPayload signal event) := by
  unfold Handler.run
  -- either the payload is the handler's own, or the fault is there, or the handler insists on none
  split <;> first
    | exact absurd hs he
    | (cases hs; rfl)
    | cases hi

/-- A handler that reads its payload but does not insist lets one of another signal pass. -/
lemma run_of_not_insists (hi : handler.insists = false) (hs : handler.signal? = some signal)
    (hr : signal.isRead = true) (he : event.signal? ≠ some signal) (server : Server T) :
    handler.run event server = server.finish () := by
  -- no other handler reads its payload without insisting on it
  obtain ⟨popup, rfl⟩ : ∃ popup, handler = .popupCommit popup := by
    unfold insists at hi
    split at hi
    · exact ⟨_, rfl⟩
    · rw [hs] at hi
      exact absurd hr (Bool.eq_false_iff.1 hi)
  cases hs
  cases event with
  | commit initial => exact absurd rfl he
  | _ => rfl

end Handler

/-- Whether a callback runs a handler that insists on its payload. -/
def Callback.insists : Callback Handler → Bool
  | .retire _ => false
  | .run handler => handler.insists

namespace Server

variable {T : Type} [Toolkit T] {signal : Signal} {event : Event}

/-- A callback that insists on its payload ends by a fault if it gets another, and does nothing
else. -/
lemma runCallback_of_insists {callback : Callback Handler} (hi : callback.insists = true)
    (hs : callback.Suits signal) (he : event.signal? ≠ some signal) (server : Server T) :
    server.runCallback event callback = server.fail (.unexpectedPayload signal event) := by
  cases callback with
  | retire handle => cases hi
  | run handler =>
    obtain ⟨own, hown⟩ := handler.exists_signal_of_insists hi
    obtain rfl := hs own hown
    exact handler.run_of_insists hi hown he server

/-- A callback that does not insist on its payload neither fails nor touches the server's own
state. -/
lemma runCallback_of_not_insists {callback : Callback Handler} (hi : callback.insists = false)
    (hs : callback.Suits signal) (hr : signal.isRead = true) (he : event.signal? ≠ some signal)
    (server : Server T) :
    OnlyOutside server (server.runCallback event callback).server ∧
      (server.runCallback event callback).result = .ok () := by
  cases callback with
  | retire handle => exact ⟨.retire server handle, rfl⟩
  | run handler =>
    cases hown : handler.signal? with
    | none =>
      cases handler with
      | observe label => exact ⟨⟨_, _, _, rfl⟩, rfl⟩
      | _ => cases hown
    | some own =>
      obtain rfl := hs own hown
      have hrun : server.runCallback event (.run handler) = server.finish () :=
        handler.run_of_not_insists hi hown hr he server
      rw [hrun]
      exact ⟨.refl server, rfl⟩

/-- Callbacks at a signal that get a payload of another in turn: the server's own state stays as it
is, and there is a fault just if one of them insists. -/
lemma serve_of_misfit (hr : signal.isRead = true) (he : event.signal? ≠ some signal)
    {callbacks : List (Callback Handler)} (hs : ∀ callback ∈ callbacks, callback.Suits signal)
    (server : Server T) :
    OnlyOutside server (server.serve event callbacks).server ∧
      (server.serve event callbacks).result =
        if callbacks.any Callback.insists then .error (.unexpectedPayload signal event)
        else .ok () := by
  induction callbacks generalizing server with
  | nil => exact ⟨.refl server, rfl⟩
  | cons callback rest ih =>
    have hsuits := hs callback (List.mem_cons_self ..)
    rw [List.any_cons]
    unfold Server.serve
    dsimp only
    cases hi : callback.insists with
    | true =>
      have hfails := runCallback_of_insists hi hsuits he server
      rw [hfails]
      exact ⟨.refl server, rfl⟩
    | false =>
      obtain ⟨houtside, hok⟩ := runCallback_of_not_insists hi hsuits hr he server
      obtain ⟨hrest, hresult⟩ :=
        ih (fun other ho => hs other (List.mem_cons_of_mem _ ho))
          (server.runCallback event callback).server
      rw [hok]
      exact ⟨houtside.trans hrest, hresult⟩

/-- **A misfit ends by a fault just if a handler insists.** A signal whose payload is read is
dispatched with one of another signal, in any reachable state. If one of its handlers insists, the
dispatch ends by a fault that names both; otherwise it runs all callbacks. Windows and focus stack,
grab, keyboards and outputs are as before either way.

**Proof sketch.** Callbacks are at the signals of their handlers, so a handler at the signal gets a
payload that is not its own. One that insists fails at once. The others, be they of a popup or from
outside, do nothing to the server's own state. -/
theorem misfit_faults_iff_insists {server : Server T} {servings : List Serving}
    (h : Reachable server servings) (handle : Handle) (hr : signal.isRead = true)
    (he : event.signal? ≠ some signal) :
    let callbacks := server.registry.callbacks handle signal
    let outcome := server.dispatch handle signal event
    ((∃ handler, .run handler ∈ callbacks ∧ handler.insists = true) →
      outcome.result = .error (.unexpectedPayload signal event)) ∧
    ((∀ handler, .run handler ∈ callbacks → handler.insists = false) →
      outcome.result = .ok callbacks.length) ∧
    outcome.server.windows = server.windows ∧ outcome.server.interaction = server.interaction ∧
    outcome.server.keyboards = server.keyboards ∧ outcome.server.outputs = server.outputs := by
  intro callbacks outcome
  obtain ⟨houtside, hserved⟩ := serve_of_misfit hr he (h.suited handle signal) server
  have hresult : outcome.result =
      (server.serve event callbacks).result.map fun () => callbacks.length := rfl
  have hdevices := SameDevices.of_onlyOutside houtside
  refine ⟨fun ⟨handler, hm, hi⟩ => ?_, fun hnone => ?_, houtside.windows_eq,
    houtside.interaction_eq, hdevices.keyboards_eq, hdevices.outputs_eq⟩
  · rw [hresult, hserved, if_pos (List.any_eq_true.2 ⟨.run handler, hm, hi⟩)]
    rfl
  · have hlax : ¬ callbacks.any Callback.insists = true := by
      intro hany
      obtain ⟨callback, hm, hi⟩ := List.any_eq_true.1 hany
      cases callback with
      | retire other => cases hi
      | run handler => exact Bool.false_ne_true ((hnone handler hm).symm.trans hi)
    rw [hresult, hserved, if_neg hlax]
    rfl

/-- A window and a popup over it are announced. -/
def popupAnnounced : List (List Headless.Setting × Call) :=
  [([], .emit ⟨0x20⟩ .newToplevel (.newToplevel ⟨0x50⟩ ⟨0x51⟩)),
    ([], .emit ⟨0x20⟩ .newPopup (.newPopup ⟨0x90⟩ (some ⟨0x51⟩)))]

/-- The surface of a window is committed without a payload. -/
theorem misfit_faults_iff_insists_surface :
    let server := (standard.enact popupAnnounced).2
    (server.dispatch ⟨0x51⟩ .commit .empty).result =
      .error (.unexpectedPayload .commit .empty) := by
  intro server
  have hlistens : (server.registry.callbacks ⟨0x51⟩ .commit).any Callback.insists = true := by
    decide +kernel
  obtain ⟨callback, hm, hi⟩ := List.any_eq_true.1 hlistens
  cases callback with
  | retire other => cases hi
  | run handler =>
    exact (misfit_faults_iff_insists (reachable_enact popupAnnounced) ⟨0x51⟩ rfl (by decide)).1
      ⟨handler, hm, hi⟩

/-- **A misfit may go unnoticed.** In a reachable state there is a popup with a handler for its
commits, and a commit without a payload ends without a fault. -/
theorem exists_misfit_ignored : ∃ (server : Server Headless) (popup : Handle),
    Reachable server [] ∧ server.registry.isRetired popup = false ∧
      .run (.popupCommit popup) ∈ server.registry.callbacks popup .commit ∧
        (server.dispatch popup .commit .empty).result = .ok 1 := by
  let server := (standard.enact popupAnnounced).2
  have hlistens : server.registry.callbacks ⟨0x90⟩ .commit = [.run (.popupCommit ⟨0x90⟩)] := by
    decide +kernel
  refine ⟨server, ⟨0x90⟩, reachable_enact popupAnnounced, by decide +kernel, ?_, ?_⟩
  · rw [hlistens]
    exact List.mem_singleton_self _
  · unfold Server.dispatch
    dsimp only
    rw [hlistens]
    rfl

end Server

end Compositor
