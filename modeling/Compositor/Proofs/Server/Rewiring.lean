import Compositor.Proofs.Server.Steady
import Compositor.Proofs.Server.Subscriptions

set_option autoImplicit false

/-!
# How the registry of a server changes

Only few handlers and calls change the registry, and they do it by steps of a few kinds: they take
back the mark of a handle, subscribe handlers to their signals, whether or not they are refused, and
release. So what these steps keep is kept by everything that is done with a server.

## Main definitions

* `Handler.signal?` — the signal of a handler.
* `Callback.Suits` — a callback may be at a signal.
* `Server.Rewired` — the registry of a state comes from that of an earlier one by such steps.

## Main results

* `Server.Rewired.runCallback`, `Server.Rewired.call` — every callback and every call is made up of
  such steps.
-/

namespace Compositor

/-- The signal that a handler is subscribed to. For an observer it may be any. -/
def Handler.signal? : Handler → Option Signal
  | .newOutput => some .newOutput
  | .newInput => some .newInput
  | .newToplevel => some .newToplevel
  | .newPopup => some .newPopup
  | .motion => some .motion
  | .motionAbsolute => some .motionAbsolute
  | .button => some .button
  | .axis => some .axis
  | .pointerFrame => some .pointerFrame
  | .requestSetCursor => some .requestSetCursor
  | .map _ => some .map
  | .unmap _ => some .unmap
  | .commit _ => some .commit
  | .toplevelDestroyed _ => some .destroy
  | .requestMove _ => some .requestMove
  | .requestResize _ => some .requestResize
  | .popupCommit _ => some .commit
  | .frame _ => some .frame
  | .requestState _ => some .requestState
  | .outputDestroyed _ => some .destroy
  | .modifiers _ => some .modifiers
  | .key _ => some .key
  | .keyboardDestroyed _ => some .destroy
  | .observe _ => none

/-- Whether a callback may be at a signal: its handler has no other. -/
def Callback.Suits (signal : Signal) : Callback Handler → Prop
  | .retire _ => True
  | .run handler => ∀ own, handler.signal? = some own → own = signal

namespace Server

variable {T : Type} [Toolkit T]

/-- The registry of a state comes from that of an earlier one by subscriptions to the right signals,
releases and marks that are taken back. -/
inductive Rewired : Server T → Server T → Prop
  /-- Other things may change as well. -/
  | rest {before after : Server T} (h : after.registry = before.registry) : Rewired before after
  /-- A mark is taken back. -/
  | revive (server : Server T) (handle : Handle) : Rewired server (server.revive handle)
  /-- A subscription is made or refused. -/
  | register (server : Server T) (wiring : Wiring) (h : wiring.callback.Suits wiring.signal) :
    Rewired server (server.register wiring.handle wiring.signal wiring.callback).2
  /-- All listeners of a handle are released. -/
  | unregisterAll (server : Server T) (handle : Handle) :
    Rewired server (server.unregisterAll handle).2
  /-- A handle is retired. -/
  | retire (server : Server T) (handle : Handle) : Rewired server (server.retire handle)
  /-- A subscriber is removed. -/
  | unsubscribe (server : Server T) (id : SubscriptionId) :
    Rewired server (server.unsubscribe id).2
  /-- Everything is taken down. -/
  | shutdown (server : Server T) : Rewired server server.shutdown
  /-- One step and then another. -/
  | trans {before middle after : Server T} : Rewired before middle → Rewired middle after →
    Rewired before after

namespace Rewired

variable {before middle after : Server T}

/-- Nothing changes. -/
lemma refl (server : Server T) : Rewired server server :=
  .rest rfl

/-- Then other things change, but not the registry. -/
lemma thenRest (h : Rewired before middle) (he : after.registry = middle.registry) :
    Rewired before after :=
  h.trans (.rest he)

/-- Wirings at the right signals are subscriptions, one after the other. -/
lemma listenAll (server : Server T) {wirings : List Wiring}
    (h : ∀ wiring ∈ wirings, wiring.callback.Suits wiring.signal) :
    Rewired server (server.listenAll wirings) := by
  induction wirings generalizing server with
  | nil => exact refl server
  | cons wiring rest ih =>
    have hfirst := register server wiring (h wiring (List.mem_cons_self ..))
    exact hfirst.trans (ih _ fun other ho => h other (List.mem_cons_of_mem _ ho))

/-! ## Handlers -/

/-- The mark of an output is taken back, and its signals are subscribed to. -/
lemma handleNewOutput (server : Server T) (output : Handle) :
    Rewired server (server.handleNewOutput output) := by
  let prepared := (server.revive output).perform (.initOutputRender output)
  let configuration := OutputConfiguration.mk true (Toolkit.preferredMode prepared.toolkit output)
  have hcommitted : Rewired server (prepared.commitOutput output configuration) :=
    (revive server output).thenRest rfl
  have hwirings : ∀ wiring ∈ outputWiring output, wiring.callback.Suits wiring.signal := by
    simp [outputWiring, Wiring.run, Wiring.track, Callback.Suits, Handler.signal?]
  exact (hcommitted.trans (listenAll _ hwirings)).thenRest rfl

/-- The mark of a device is taken back, and the signals of a keyboard are subscribed to. -/
lemma handleNewInput (server : Server T) (device : Handle) (kind : DeviceKind) :
    Rewired server (server.handleNewInput device kind) := by
  cases kind with
  | keyboard =>
    have hconfigured (rate delay : Int32) : Rewired server ((server.revive device).perform
        (.configureKeyboard device rate delay)) := (revive server device).thenRest rfl
    have hwirings : ∀ wiring ∈ keyboardWiring device, wiring.callback.Suits wiring.signal := by
      simp [keyboardWiring, Wiring.run, Wiring.track, Callback.Suits, Handler.signal?]
    exact ((hconfigured _ _).trans (listenAll _ hwirings)).thenRest rfl
  | _ => exact (revive server device).thenRest rfl

/-- The marks of a toplevel and its surface are taken back, and their signals are subscribed to. -/
lemma handleNewToplevel (server : Server T) (toplevel surface : Handle) :
    Rewired server (server.handleNewToplevel toplevel surface) := by
  let created := ((server.revive toplevel).revive surface).createToplevelScene toplevel
  have hadded : Rewired server (created.2.addWindow toplevel surface created.1).2 :=
    ((revive server toplevel).trans (revive _ surface)).thenRest rfl
  refine hadded.trans (listenAll _ ?_)
  simp [toplevelWiring, Wiring.run, Wiring.track, Callback.Suits, Handler.signal?]

/-- The mark of a popup is taken back, and its signals are subscribed to. -/
lemma handleNewPopup (server : Server T) (popup : Handle) (parent : Option Handle) :
    Rewired server (server.handleNewPopup popup parent).server := by
  cases parent with
  | none => exact refl server
  | some parent =>
    have hcreated : Rewired server ((server.revive popup).createPopupScene popup parent) :=
      (revive server popup).thenRest rfl
    refine hcreated.trans (listenAll _ ?_)
    simp [Wiring.run, Wiring.track, Callback.Suits, Handler.signal?]

/-- The surface of a destroyed window is released, if the window has a record. -/
lemma handleToplevelDestroyed (server : Server T) (id : WindowId) :
    Rewired server (server.handleToplevelDestroyed id) := by
  have hdropped : Rewired server { server.releaseGrab id with
    windows := server.windows.destroy id } := .rest rfl
  unfold Server.handleToplevelDestroyed
  dsimp only
  split
  · exact hdropped
  · exact hdropped.trans (unregisterAll _ _)

/-- Every handler, whatever the event and whether or not it ends by a fault. -/
theorem run (server : Server T) (handler : Handler) (event : Event) :
    Rewired server (handler.run event server).server := by
  by_cases hs : handler.isSteady = true
  · have hsteady : Steady handler.object?.toList server (handler.run event server).server :=
      .run server handler hs (by simp) event
    exact .rest hsteady.registry_eq
  · cases handler with
    | newOutput => cases event <;> first | exact refl server | exact handleNewOutput server _
    | newInput => cases event <;> first | exact refl server | exact handleNewInput server _ _
    | newToplevel => cases event <;> first | exact refl server | exact handleNewToplevel server _ _
    | newPopup => cases event <;> first | exact refl server | exact handleNewPopup server _ _
    | toplevelDestroyed id => exact handleToplevelDestroyed server id
    | _ => exact absurd rfl hs

/-- A callback retires a handle or runs a handler. -/
lemma runCallback (server : Server T) (event : Event) (callback : Callback Handler) :
    Rewired server (server.runCallback event callback).server := by
  cases callback with
  | retire handle => exact retire server handle
  | run handler => exact run server handler event

/-! ## Calls -/

/-- Callbacks change the registry one after the other, up to a fault. -/
lemma serve (server : Server T) (event : Event) (callbacks : List (Callback Handler)) :
    Rewired server (server.serve event callbacks).server := by
  induction callbacks generalizing server with
  | nil => exact refl server
  | cons callback rest ih =>
    have hran := runCallback server event callback
    unfold Server.serve
    dsimp only
    split
    · exact hran
    · exact hran.trans (ih _)

/-- A dispatch serves the callbacks of its pair. -/
lemma dispatch (server : Server T) (handle : Handle) (signal : Signal) (event : Event) :
    Rewired server (server.dispatch handle signal event).server :=
  serve server event _

/-- A native dispatch is a dispatch or nothing. -/
lemma dispatchNative (server : Server T) (token : Token) (event : Event) :
    Rewired server (server.dispatchNative token event).server := by
  unfold Server.dispatchNative
  split
  · exact dispatch server _ _ event
  · exact refl server

/-- Events change the registry one after the other, until the session ends. -/
lemma runEmissions (server : Server T) (emissions : List Emission) :
    Rewired server (server.run emissions).server := by
  induction emissions generalizing server with
  | nil => exact refl server
  | cons emission rest ih =>
    have hdispatched := dispatch server emission.handle emission.signal emission.event
    unfold Server.run
    dsimp only
    split
    · split
      · exact hdispatched
      · exact hdispatched.trans (ih _)
    · exact refl server

/-- Every call, whether or not it ends by a fault. -/
theorem call (server : Server T) (call : Call) : Rewired server (server.call call).server := by
  by_cases hs : call.isSteady = true
  · exact .rest (Steady.call server hs).registry_eq
  · cases call with
    | emit handle signal event => exact dispatch server handle signal event
    | emitNative token event => exact dispatchNative server token event
    | run emissions => exact runEmissions server emissions
    | shutdown => exact shutdown server
    | observe handle signal label =>
      have hsuits : (Callback.run (.observe label)).Suits signal := by
        simp [Callback.Suits, Handler.signal?]
      exact register server ⟨handle, signal, .run (.observe label)⟩ hsuits
    | track handle signal => exact register server ⟨handle, signal, .retire handle⟩ trivial
    | unregisterAll handle => exact unregisterAll server handle
    | unsubscribe id => exact unsubscribe server id
    | revive handle => exact revive server handle
    | _ => exact absurd rfl hs

end Rewired

end Server

end Compositor
