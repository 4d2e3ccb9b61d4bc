import Compositor.Proofs.Server.Confluence
import Compositor.Proofs.Server.Placement

set_option autoImplicit false

/-!
# Objects that go away

When an object is destroyed, its listeners have to be released at once, and its handle has to be
retired, so that nobody listens to it by mistake afterwards. The server leaves this to the last of
the callbacks that it has subscribed for the object, the one that tracks its lifetime. Every object
that it listens to has such a callback, however it was announced and however its value was used
before; the cursor, which it never tracks, is the only exception.

## Main results

* `Server.Placed.gone_of_retire_mem` — the end of a tracked object.
* `Server.no_listener_left_of_destroy` — the end of any object that is listened to.
* `Server.exists_cursor_left_behind` — the end of the cursor.
-/

namespace Compositor.Server

variable {T : Type} [Toolkit T] {origin : T} {server : Server T} {handle : Handle}

/-- A handle is without listeners and retired. -/
def Gone (handle : Handle) (server : Server T) : Prop :=
  server.registry.listenersOf handle = [] ∧ server.registry.isRetired handle = true

namespace Gone

omit [Toolkit T] in
/-- A step that leaves the listeners alone. -/
lemma congr {after : Server T} (h : Gone handle server) (he : after.registry = server.registry) :
    Gone handle after := by
  unfold Gone
  rw [he]
  exact h

/-- A retired handle is gone. -/
lemma of_retire (server : Server T) (handle : Handle) : Gone handle (server.retire handle) := by
  unfold Gone
  rw [registry_retire, Registry.listenersOf_retire, Registry.isRetired_retire]
  simp

/-- The destruction of a window brings no listeners back. -/
lemma handleToplevelDestroyed (h : Gone handle server) (id : WindowId) :
    Gone handle (server.handleToplevelDestroyed id) := by
  cases hw : server.windows.get? id with
  | none =>
    have hregistry : (server.handleToplevelDestroyed id).registry = server.registry := by
      unfold Server.handleToplevelDestroyed
      dsimp only
      rw [show (server.releaseGrab id).windows.get? id = none from hw]
      rfl
    exact h.congr hregistry
  | some window =>
    obtain ⟨hlisteners, hretired⟩ := h
    unfold Gone
    rw [registry_handleToplevelDestroyed hw, Registry.listenersOf_take, hlisteners, ite_self]
    exact ⟨rfl, hretired⟩

/-- A callback that belongs to the end of an object goes without a fault and brings no listeners
back. The one that is to retire the object does so. -/
lemma runCallback {callback : Callback Handler} (hf : Fits server handle .destroy callback)
    (event : Event) : (server.runCallback event callback).result = .ok () ∧
      (Gone handle server ∨ callback = .retire handle →
        Gone handle (server.runCallback event callback).server) := by
  cases callback with
  | retire other =>
    obtain ⟨rfl, -⟩ := hf
    exact ⟨rfl, fun _ => of_retire server other⟩
  | run handler =>
    obtain ⟨hsignal, -⟩ := hf
    cases handler with
    | toplevelDestroyed id =>
      refine ⟨rfl, fun h => ?_⟩
      exact (h.resolve_right nofun).handleToplevelDestroyed id
    | outputDestroyed output => exact ⟨rfl, fun h => (h.resolve_right nofun).congr rfl⟩
    | keyboardDestroyed device => exact ⟨rfl, fun h => (h.resolve_right nofun).congr rfl⟩
    | _ => cases hsignal

end Gone

/-- The end of a tracked object goes without a fault, and leaves its handle without listeners and
retired.

**Proof sketch.** All callbacks of the pair belong to the end of the object and go on doing so. None
of them ends by a fault or brings listeners back, and one of them retires the object. -/
lemma Placed.gone_of_retire_mem (p : Placed origin server)
    (hm : .retire handle ∈ server.registry.callbacks handle .destroy) (event : Event) :
    (server.dispatch handle .destroy event).result =
        .ok (server.registry.callbacks handle .destroy).length ∧
      Gone handle (server.dispatch handle .destroy event).server := by
  let callbacks := server.registry.callbacks handle .destroy
  let invariant (server : Server T) : Prop := server.registry.isShutDown = false ∧
    ∀ callback ∈ callbacks, Fits server handle .destroy callback
  have hstep : ∀ callback ∈ callbacks, ∀ server : Server T, invariant server →
      (server.runCallback event callback).result = .ok () ∧
      invariant (server.runCallback event callback).server ∧
      (Gone handle server ∨ callback = .retire handle →
        Gone handle (server.runCallback event callback).server) := by
    intro callback hc server ⟨hopen, hfits⟩
    have hran := Ran.runCallback hopen event callback
    obtain ⟨hresult, hgone⟩ := Gone.runCallback (hfits callback hc) event
    refine ⟨hresult, ⟨hran.isShutDown_eq.trans hopen, fun other ho => ?_⟩, hgone⟩
    exact (hfits other ho).ages hran.ages
  have hstart : invariant server := ⟨p.isOpen, fun callback hc => p.fits hc⟩
  obtain ⟨hresult, -, hgone⟩ := serve_of_mem hstep hstart (.inr hm)
  refine ⟨?_, hgone⟩
  have hcount : (server.dispatch handle .destroy event).result =
      (server.serve event callbacks).result.map fun _ => callbacks.length := rfl
  rw [hcount, hresult]
  rfl

/-- **The end of an object that is listened to** leaves no listener on it and retires it, in every
state of a session and whatever was announced and destroyed before, with equal values or not. The
cursor is the only exception, for as long as nothing else was announced under its value: it is
listened to for the cursor's signals only, and nobody takes note of its end.

**Proof sketch.** A handle with a listener has a callback for the listener's signal, so that it is
tracked or the cursor, see `Driven.placed`. If it is tracked, the callback that tracks it is among
those that are run, see `Placed.gone_of_retire_mem`. If it is not, there is no callback for its end
at all, and all its listeners are for signals of the cursor. -/
theorem no_listener_left_of_destroy (h : Driven origin server) {listener : Listener Handler}
    (hl : listener ∈ server.registry.listenersOf handle) (event : Event) :
    ((∃ count, (server.dispatch handle .destroy event).result = .ok count) ∧
      (server.dispatch handle .destroy event).server.registry.listenersOf handle = [] ∧
      (server.dispatch handle .destroy event).server.registry.isRetired handle = true) ∨
    (handle = Toolkit.cursor origin ∧
      (∀ other ∈ server.registry.listenersOf handle, other.signal.isPointer = true) ∧
      server.dispatch handle .destroy event = ⟨.ok 0, server⟩) := by
  have p := h.placed
  by_cases hm : .retire handle ∈ server.registry.callbacks handle .destroy
  · obtain ⟨hresult, hlisteners, hretired⟩ := p.gone_of_retire_mem hm event
    exact .inl ⟨⟨_, hresult⟩, hlisteners, hretired⟩
  · have hpointer (other : Listener Handler) (ho : other ∈ server.registry.listenersOf handle) :
        handle = Toolkit.cursor origin ∧ other.signal.isPointer = true := by
      have hne : server.registry.callbacks handle other.signal ≠ [] :=
        p.coherent.mem_signals_iff.1 (List.mem_map_of_mem ho)
      exact (p.tracked hne).resolve_left hm
    have hnil : server.registry.callbacks handle .destroy = [] := by
      by_contra hne
      obtain ⟨-, hs⟩ := (p.tracked hne).resolve_left hm
      cases hs
    exact .inr ⟨(hpointer listener hl).1, fun other ho => (hpointer other ho).2,
      dispatch_of_nil hnil⟩

/-- Objects of all kinds are announced. A window goes, its surface is announced as an output and its
toplevel as a popup. -/
def mingledValues : List Emission :=
  [⟨⟨0x10⟩, .newOutput, .newOutput ⟨0x70⟩⟩, ⟨⟨0x10⟩, .newInput, .newInput ⟨0x80⟩ .keyboard⟩,
    ⟨⟨0x20⟩, .newToplevel, .newToplevel ⟨0x50⟩ ⟨0x51⟩⟩, ⟨⟨0x51⟩, .map, .empty⟩,
    ⟨⟨0x50⟩, .destroy, .empty⟩, ⟨⟨0x10⟩, .newOutput, .newOutput ⟨0x51⟩⟩,
    ⟨⟨0x20⟩, .newPopup, .newPopup ⟨0x50⟩ (some ⟨0x51⟩)⟩]

/-- A new server on the headless toolkit begins a session. -/
lemma Driven.standard : Driven Headless.standard Server.standard :=
  .create create_standard rfl

/-- The surface that became an output is listened to, and no longer after its end. -/
theorem no_listener_left_of_destroy_mingled :
    ∃ server : Server Headless, 0 < server.registry.listenerCount ⟨0x51⟩ ∧
      (server.dispatch ⟨0x51⟩ .destroy .empty).server.registry.listenersOf ⟨0x51⟩ = [] ∧
      (server.dispatch ⟨0x51⟩ .destroy .empty).server.registry.isRetired ⟨0x51⟩ = true := by
  have hdriven := Driven.standard.emitAll mingledValues
  have hcount : 0 < (standard.emitAll mingledValues).registry.listenerCount ⟨0x51⟩ := by
    decide +kernel
  obtain ⟨listener, hl⟩ := List.exists_mem_of_length_pos hcount
  rcases no_listener_left_of_destroy hdriven hl .empty with ⟨-, hlisteners, hretired⟩ | ⟨hcursor, -⟩
  · exact ⟨_, hcount, hlisteners, hretired⟩
  · exact absurd hcursor (by decide +kernel)

/-- **The cursor is left behind.** Right after its creation a server listens to the cursor for five
signals. When the cursor is destroyed, no callback is run, all five listeners stay, and its handle
is not retired. -/
theorem exists_cursor_left_behind :
    ∃ (server : Server Headless) (handle : Handle), Driven Headless.standard server ∧
      server.registry.listenerCount handle = 5 ∧
      (server.dispatch handle .destroy .empty).server.registry.listenerCount handle = 5 ∧
      (server.dispatch handle .destroy .empty).server.registry.isRetired handle = false :=
  ⟨standard, ⟨0x30⟩, .standard, by decide +kernel, by decide +kernel, by decide +kernel⟩

end Compositor.Server
