import Compositor.Proofs.Server.Moments

set_option autoImplicit false

/-!
# Runs under promises about moments

Some of what holds of a server rests on what the toolkit promises: that it changes by itself in
certain ways only, and that what it answers at certain moments has certain properties. This module
takes the reachable states under two such promises, one about changes of the toolkit and one about
the moments of the run.

## Main definitions

* `Server.Guarded` — the states that a server can reach while two promises are kept.
* `Server.keeps` — checks on the headless toolkit that calls in turn keep promises.

## Main results

* `Server.Guarded.invariant` — what the moments that keep the promise keep is kept.
* `Server.Guarded.call` — a call whose moments keep the promise leads on.
* `Server.Guarded.reachable` — promises bring no states in.
-/

namespace Compositor.Server

variable {T : Type} [Toolkit T]

/-- The states that a server can reach, each with the dispatches that are going on, innermost first,
if the toolkit changes by itself only as `drift` allows and all moments keep a promise. -/
inductive Guarded (drift : Server T → T → Prop) (promise : Moment T → Prop) :
    Server T → List Serving → Prop
  /-- A server is built. -/
  | create {toolkit : T} {config : Config} {display : Option String} {server : Server T} :
    Server.create toolkit config display = .ok server → Guarded drift promise server []
  /-- The toolkit changes by itself. -/
  | toolkit {server : Server T} {servings : List Serving} (toolkit : T) :
    Guarded drift promise server servings → drift server toolkit →
      Guarded drift promise { server with toolkit := toolkit } servings
  /-- A dispatch begins. -/
  | dispatch {server : Server T} {servings : List Serving} (handle : Handle) (signal : Signal)
      (event : Event) : Guarded drift promise server servings →
    promise ⟨server, .dispatch handle signal event⟩ →
      Guarded drift promise server
        (⟨event, server.registry.callbacks handle signal⟩ :: servings)
  /-- The next callback of the innermost dispatch is run. -/
  | callback {server : Server T} {servings : List Serving} {event : Event}
      {callback : Callback Handler} {rest : List (Callback Handler)} :
    Guarded drift promise server (⟨event, callback :: rest⟩ :: servings) →
    promise ⟨server, .callback event callback⟩ →
      Guarded drift promise (server.runCallback event callback).server (⟨event, rest⟩ :: servings)
  /-- The innermost dispatch ends, or is given up because of a fault. -/
  | leave {server : Server T} {serving : Serving} {servings : List Serving} :
    Guarded drift promise server (serving :: servings) → Guarded drift promise server servings
  /-- A call is made that dispatches nothing, be it from outside or from a callback. -/
  | direct {server : Server T} {servings : List Serving} (call : Call)
      (direct : call.isDirect = true) : Guarded drift promise server servings →
    promise ⟨server, .call call direct⟩ →
      Guarded drift promise (server.call call).server servings

namespace Guarded

variable {drift : Server T → T → Prop} {promise : Moment T → Prop} {server : Server T}
  {servings : List Serving}

/-- What a new server has is kept if it is kept by all changes of the toolkit that are allowed and
all moments that keep the promise. -/
lemma invariant {motive : Server T → Prop} (h : Guarded drift promise server servings)
    (create : ∀ toolkit config display server,
      Server.create toolkit config display = .ok server → motive server)
    (toolkit : ∀ (server : Server T) toolkit, motive server → drift server toolkit →
      motive { server with toolkit := toolkit })
    (moment : ∀ moment : Moment T, motive moment.server → promise moment → motive moment.after) :
    motive server := by
  induction h with
  | create hc => exact create _ _ _ _ hc
  | toolkit other _ hd ih => exact toolkit _ other ih hd
  | dispatch _ _ _ _ _ ih => exact ih
  | @callback _ _ event callback _ _ hp ih => exact moment ⟨_, .callback event callback⟩ ih hp
  | leave _ ih => exact ih
  | direct call direct _ hp ih => exact moment ⟨_, .call call direct⟩ ih hp

/-! ## Calls -/

/-- Callbacks in turn. Those after a fault are left over. -/
lemma serve {event : Event} {callbacks : List (Callback Handler)}
    (h : Guarded drift promise server (⟨event, callbacks⟩ :: servings))
    (hp : ∀ moment ∈ server.serveMoments event callbacks, promise moment) :
    Guarded drift promise (server.serve event callbacks).server servings := by
  induction callbacks generalizing server with
  | nil => exact h.leave
  | cons callback rest ih =>
    unfold serveMoments at hp
    unfold Server.serve
    dsimp only at hp ⊢
    have hran := h.callback (hp _ (List.mem_cons_self ..))
    cases hr : (server.runCallback event callback).result with
    | error fault => exact hran.leave
    | ok done =>
      rw [hr] at hp
      exact ih hran fun moment hm => hp moment (List.mem_cons_of_mem _ hm)

/-- A dispatch. -/
lemma dispatchAll (h : Guarded drift promise server servings) (emission : Emission)
    (hp : ∀ moment ∈ server.dispatchMoments emission, promise moment) :
    Guarded drift promise
      (server.dispatch emission.handle emission.signal emission.event).server servings := by
  have hbegun := h.dispatch emission.handle emission.signal emission.event
    (hp _ (List.mem_cons_self ..))
  exact hbegun.serve fun moment hm => hp moment (List.mem_cons_of_mem _ hm)

/-- Events in turn. -/
lemma run (h : Guarded drift promise server servings) (emissions : List Emission)
    (hp : ∀ moment ∈ server.runMoments emissions, promise moment) :
    Guarded drift promise (server.run emissions).server servings := by
  induction emissions generalizing server with
  | nil => exact h
  | cons emission rest ih =>
    unfold runMoments at hp
    unfold Server.run
    split <;> rename_i hr
    · rw [if_pos hr] at hp
      dsimp only at hp ⊢
      have hdispatched := h.dispatchAll emission fun moment hm =>
        hp moment (List.mem_append_left _ hm)
      cases hd : (server.dispatch emission.handle emission.signal emission.event).result with
      | error fault => exact hdispatched
      | ok count =>
        rw [hd] at hp
        exact ih hdispatched fun moment hm => hp moment (List.mem_append_right _ hm)
    · exact h

/-- **A call whose moments keep the promise leads on**, whether or not it ends by a fault. -/
theorem call (h : Guarded drift promise server servings) (call : Call)
    (hp : ∀ moment ∈ server.moments call, promise moment) :
    Guarded drift promise (server.call call).server servings := by
  by_cases hdirect : call.isDirect = true
  · rw [moments_of_isDirect server hdirect] at hp
    exact h.direct call hdirect (hp _ (List.mem_singleton.2 rfl))
  · cases call with
    | emit handle signal event => exact h.dispatchAll ⟨handle, signal, event⟩ hp
    | emitNative token event =>
      have hnative : (server.call (.emitNative token event)).server =
          (server.dispatchNative token event).server := rfl
      rw [moments_emitNative] at hp
      rw [hnative, dispatchNative]
      cases ht : server.registry.target? token with
      | none => exact h
      | some target =>
        rw [ht] at hp
        exact h.dispatchAll ⟨target.1, target.2, event⟩ hp
    | run emissions => exact h.run emissions hp
    | _ => exact absurd rfl hdirect

/-! ## Reachable states -/

/-- Promises rule states out, and bring none in. -/
lemma reachable (h : Guarded drift promise server servings) : Reachable server servings := by
  induction h with
  | create hc => exact .create hc
  | toolkit toolkit _ _ ih => exact .toolkit toolkit ih
  | dispatch handle signal event _ _ ih => exact .enter handle signal event ih
  | callback _ _ ih => exact .callback ih
  | leave _ ih => exact .leave ih
  | direct call _ _ _ ih => exact .call call ih

end Guarded

/-! ## The headless toolkit -/

/-- Checks changes of the headless toolkit from outside and the moments of calls in turn. -/
def keeps (allows : Server Headless → Headless → Bool) (permits : Moment Headless → Bool)
    (server : Server Headless) : List (List Headless.Setting × Call) → Bool
  | [] => true
  | (settings, call) :: rest =>
    let toolkit := settings.foldl Headless.configure server.toolkit
    let changed := { server with toolkit := toolkit }
    allows server toolkit && (changed.moments call).all permits &&
      (changed.call call).server.keeps allows permits rest

/-- Calls in turn that pass the checks lead on. -/
lemma Guarded.enact {drift : Server Headless → Headless → Prop}
    {promise : Moment Headless → Prop} {allows : Server Headless → Headless → Bool}
    {permits : Moment Headless → Bool}
    (hallows : ∀ server toolkit, allows server toolkit = true → drift server toolkit)
    (hpermits : ∀ moment, permits moment = true → promise moment) {server : Server Headless}
    {servings : List Serving} (h : Guarded drift promise server servings)
    {script : List (List Headless.Setting × Call)}
    (hs : server.keeps allows permits script = true) :
    Guarded drift promise (server.enact script).2 servings := by
  induction script generalizing server with
  | nil => exact h
  | cons entry rest ih =>
    obtain ⟨settings, call⟩ := entry
    unfold keeps at hs
    dsimp only at hs
    rw [Bool.and_eq_true, Bool.and_eq_true, List.all_eq_true] at hs
    obtain ⟨⟨hdrift, hmoments⟩, hrest⟩ := hs
    have hchanged := h.toolkit _ (hallows _ _ hdrift)
    exact ih (hchanged.call call fun moment hm => hpermits moment (hmoments moment hm)) hrest

end Compositor.Server
