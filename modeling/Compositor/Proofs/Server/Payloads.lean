import Compositor.Proofs.Server.Moments
import Compositor.Proofs.Server.Placement

set_option autoImplicit false

/-!
# Payloads

A handler looks for the payload of its own signal. No callback is ever at another signal than that
of its handler, whatever has been subscribed from outside, released or taken down. So if every
dispatch has a proper payload, every handler gets one that it accepts.

## Main definitions

* `Signal.carries` — the proper payloads of a signal.
* `Server.Suited` — every callback is at the signal of its handler.
* `Callback.Accepts` — a callback is run with a payload of the signal of its handler.
* `Server.Moment.Proper`, `Server.Moment.Accepted` — a dispatch with a proper payload, and a
  callback with one that it accepts.

## Main results

* `Server.Reachable.suited` — callbacks are at the signals of their handlers in every reachable
  state.
* `Server.Unfolds.accepted` — handlers get payloads that they accept.
-/

namespace Compositor

/-- Whether an event is a proper payload of a signal: of the kind that its handlers look for, and
with a parent if it is a popup. Where no handler looks at the payload, any will do. -/
def Signal.carries : Signal → Event → Bool
  | .newOutput, .newOutput _ => true
  | .newOutput, _ => false
  | .newInput, .newInput _ _ => true
  | .newInput, _ => false
  | .newToplevel, .newToplevel _ _ => true
  | .newToplevel, _ => false
  | .newPopup, .newPopup _ parent => parent.isSome
  | .newPopup, _ => false
  | .commit, .commit _ => true
  | .commit, _ => false
  | .requestResize, .requestResize _ _ => true
  | .requestResize, _ => false
  | .requestState, .outputRequestState _ => true
  | .requestState, _ => false
  | .motion, .pointerMotion _ _ _ => true
  | .motion, _ => false
  | .motionAbsolute, .pointerMotionAbsolute _ _ _ => true
  | .motionAbsolute, _ => false
  | .button, .pointerButton _ _ _ => true
  | .button, _ => false
  | .axis, .pointerAxis _ => true
  | .axis, _ => false
  | .key, .key _ _ _ => true
  | .key, _ => false
  | .requestSetCursor, .requestSetCursor _ _ _ => true
  | .requestSetCursor, _ => false
  | _, _ => true

namespace Callback

/-- Whether the event with which a callback is run is a proper payload of the signal of its
handler. -/
def Accepts (event : Event) : Callback Handler → Prop
  | .retire _ => True
  | .run handler => ∀ own, handler.signal? = some own → own.carries event = true

/-- A callback at the right signal accepts what the signal carries. -/
lemma Suits.accepts {signal : Signal} {event : Event} {callback : Callback Handler}
    (h : callback.Suits signal) (he : signal.carries event = true) : callback.Accepts event := by
  cases callback with
  | retire handle => trivial
  | run handler =>
    intro own ho
    rw [h own ho]
    exact he

end Callback

namespace Server

variable {T : Type}

/-- Every callback is at the signal of its handler. -/
def Suited (server : Server T) : Prop :=
  ∀ handle signal, ∀ callback ∈ server.registry.callbacks handle signal, callback.Suits signal

namespace Suited

variable {server before after : Server T}

/-- If no callbacks are added, all are where they should be. -/
lemma mono (s : Suited before) (h : ∀ handle signal callback,
    callback ∈ after.registry.callbacks handle signal →
      callback ∈ before.registry.callbacks handle signal) : Suited after :=
  fun handle signal callback hm => s handle signal callback (h handle signal callback hm)

variable [Toolkit T]

/-- A subscription, be it made or refused. -/
lemma register (s : Suited server) (wiring : Wiring) (h : wiring.callback.Suits wiring.signal) :
    Suited (server.register wiring.handle wiring.signal wiring.callback).2 := by
  cases hc : server.registry.check wiring.handle with
  | ok admitted =>
    intro handle signal callback hm
    rw [(Wired.register wiring hc).callbacks_eq, List.mem_append, mem_callbacksIn_iff,
      List.mem_singleton] at hm
    rcases hm with hold | rfl
    · exact s handle signal callback hold
    · exact h
  | error refusal =>
    unfold Server.register
    rw [hc]
    exact s

/-- Releasing a handle adds no callbacks. -/
lemma unregisterAll (s : Suited server) (handle : Handle) :
    Suited (server.unregisterAll handle).2 := by
  refine s.mono fun other signal callback hm => ?_
  rw [registry_unregisterAll, Registry.callbacks_take] at hm
  split at hm
  · cases hm
  · exact hm

/-- Retiring a handle adds no callbacks. -/
lemma retire (s : Suited server) (handle : Handle) : Suited (server.retire handle) := by
  refine s.mono fun other signal callback hm => ?_
  rw [registry_retire, Registry.callbacks_retire] at hm
  split at hm
  · cases hm
  · exact hm

/-- Removing a subscriber adds no callbacks. -/
lemma unsubscribe (s : Suited server) (c : Coherent server) (id : SubscriptionId) :
    Suited (server.unsubscribe id).2 := by
  have hleft {released : Option Token} {registry : Registry Handler}
      (hu : server.registry.unsubscribe? id = some (released, registry)) :
      Suited { server with registry } := by
    refine s.mono fun handle signal callback hm => ?_
    obtain ⟨subscriber, hs, rfl⟩ := List.mem_map.1 hm
    rw [Registry.Coherent.subscribersOf_unsubscribe c hu] at hs
    exact List.mem_map_of_mem (List.mem_of_mem_filter hs)
  unfold Server.unsubscribe
  split <;> rename_i hu
  · exact s
  · exact hleft hu
  · exact hleft hu

/-- After the end there are no callbacks. -/
lemma shutdown (server : Server T) : Suited server.shutdown := by
  intro handle signal callback hm
  rw [registry_shutdown, Registry.callbacks_clear] at hm
  cases hm

end Suited

variable [Toolkit T]

/-- A changed registry has its callbacks at the signals of their handlers, if it did before. -/
lemma Rewired.suited {before after : Server T} (h : Rewired before after) (c : Coherent before)
    (s : Suited before) : Suited after := by
  induction h with
  | rest h => exact s.mono fun handle signal callback hm => by rwa [h] at hm
  | revive server handle => exact s
  | register server wiring h => exact s.register wiring h
  | unregisterAll server handle => exact s.unregisterAll handle
  | retire server handle => exact s.retire handle
  | unsubscribe server id => exact s.unsubscribe c id
  | shutdown server => exact .shutdown server
  | trans first _ ih ih' => exact ih' (first.coherent c) (ih c s)

/-- A new server has its callbacks at the signals of their handlers. -/
lemma suited_of_create {toolkit : T} {config : Config} {display : Option String}
    {server : Server T} (h : create toolkit config display = .ok server) : Suited server := by
  intro handle signal callback hm
  have hfits := (placed_of_create h).fits hm
  cases callback with
  | retire other => trivial
  | run handler =>
    intro own ho
    exact Option.some.inj (ho.symm.trans hfits.1)

/-- **Callbacks are at the signals of their handlers** in every state that a server can reach, also
within a dispatch. -/
theorem Reachable.suited {server : Server T} {servings : List Serving}
    (h : Reachable server servings) : Suited server := by
  induction h with
  | create hc => exact suited_of_create hc
  | call call hr ih => exact (Rewired.call _ call).suited hr.coherent ih
  | toolkit toolkit _ ih => exact ih
  | enter handle signal event _ ih => exact ih
  | callback hr ih => exact (Rewired.runCallback _ _ _).suited hr.coherent ih
  | leave _ ih => exact ih

/-! ## Proper payloads -/

namespace Moment

/-- A moment does not begin a dispatch with an improper payload. -/
def Proper (moment : Moment T) : Prop :=
  match moment.deed with
  | .dispatch _ signal event => signal.carries event = true
  | _ => True

instance (moment : Moment T) : Decidable moment.Proper :=
  match moment with
  | ⟨_, .dispatch _ signal event⟩ => inferInstanceAs (Decidable (signal.carries event = true))
  | ⟨_, .callback _ _⟩ => inferInstanceAs (Decidable True)
  | ⟨_, .call _ _⟩ => inferInstanceAs (Decidable True)

/-- A moment does not run a callback with a payload that is improper for its handler. -/
def Accepted (moment : Moment T) : Prop :=
  match moment.deed with
  | .callback event callback => callback.Accepts event
  | _ => True

end Moment

namespace Unfolds

variable {start server : Server T} {servings : List Serving} {moments : List (Moment T)}

/-- **Handlers get payloads that they accept** if every dispatch has a proper one. This goes for the
callbacks that are still to be run as well. -/
theorem accepted (h : Unfolds start [] moments server servings) (hr : Reachable start [])
    (hp : ∀ moment ∈ moments, moment.Proper) :
    (∀ moment ∈ moments, moment.Accepted) ∧
      ∀ serving ∈ servings, ∀ callback ∈ serving.rest, callback.Accepts serving.event := by
  -- what was accepted before goes on, and so the last moment is all that is to be checked
  have hadd {before : List (Moment T)} {last : Moment T}
      (hbefore : ∀ moment ∈ before, moment.Accepted) (hlast : last.Accepted) :
      ∀ moment ∈ before ++ [last], moment.Accepted := by
    intro moment hm
    rcases List.mem_append.1 hm with hm | hm
    · exact hbefore moment hm
    · rw [List.mem_singleton.1 hm]
      exact hlast
  induction h with
  | refl => exact ⟨by simp, by simp⟩
  | toolkit toolkit _ ih => exact ih hp
  | dispatch handle signal event hu ih =>
    obtain ⟨hmoments, hservings⟩ := ih fun moment hm => hp moment (List.mem_append_left _ hm)
    have hproper : signal.carries event = true := hp _ List.mem_concat_self
    refine ⟨hadd hmoments trivial, fun serving hm callback hc => ?_⟩
    rcases List.mem_cons.1 hm with rfl | hm
    · exact ((hu.reachable hr).suited handle signal callback hc).accepts hproper
    · exact hservings serving hm callback hc
  | callback hu ih =>
    obtain ⟨hmoments, hservings⟩ := ih fun moment hm => hp moment (List.mem_append_left _ hm)
    refine ⟨hadd hmoments (hservings _ (List.mem_cons_self ..) _ (List.mem_cons_self ..)),
      fun serving hm other hc => ?_⟩
    rcases List.mem_cons.1 hm with rfl | hm
    · exact hservings _ (List.mem_cons_self ..) other (List.mem_cons_of_mem _ hc)
    · exact hservings serving (List.mem_cons_of_mem _ hm) other hc
  | leave _ ih =>
    obtain ⟨hmoments, hservings⟩ := ih hp
    exact ⟨hmoments, fun serving hm => hservings serving (List.mem_cons_of_mem _ hm)⟩
  | direct call direct hu ih =>
    obtain ⟨hmoments, hservings⟩ := ih fun moment hm => hp moment (List.mem_append_left _ hm)
    exact ⟨hadd hmoments trivial, hservings⟩

end Unfolds

end Server

end Compositor
