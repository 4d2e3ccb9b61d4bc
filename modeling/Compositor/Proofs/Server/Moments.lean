import Compositor.Headless
import Compositor.Proofs.Server.Reachable

set_option autoImplicit false

/-!
# Moment by moment

A call may dispatch several signals, a dispatch may run several callbacks, and a callback from
outside may make calls of its own. Taken apart, all that a server does is a list of moments: a
dispatch begins, one callback is run, or a call is made that dispatches nothing. A result about a
run of any length then follows from what one moment does, and it can name the moments that decide.

## Main definitions

* `Outcome.Faults` — an operation ends by a fault.
* `Server.Deed`, `Server.Moment` — one thing that is done, and the state in which it is done.
* `Server.moments` — the moments of a call, up to a fault.
* `Server.Unfolds` — what is done between two states, with the dispatches that are going on.
* `Server.enact` — calls in turn on the headless toolkit, with their moments.

## Main results

* `Server.Unfolds.moment_induction` — what every moment keeps is kept.
* `Server.Unfolds.cut` — what is done can be cut at any moment.
* `Server.Unfolds.call` — a call unfolds into its moments.
* `Server.call_result_eq_error_iff` — a call ends by a fault just if one of its moments does.
* `Server.Unfolds.reachable`, `Server.Reachable.exists_unfolds` — the reachable states are those
  that unfold from a new server.
-/

namespace Compositor

/-- An operation ends by a fault. -/
def Outcome.Faults {T α : Type} (outcome : Outcome T α) : Prop :=
  ∃ fault, outcome.result = .error fault

namespace Server

/-- Whether a call dispatches no signals. -/
def Call.isDirect : Call → Bool
  | .emit _ _ _ | .emitNative _ _ | .run _ => false
  | _ => true

/-- One thing that a server does. -/
inductive Deed where
  /-- A dispatch begins. -/
  | dispatch (handle : Handle) (signal : Signal) (event : Event)
  /-- A callback is run. -/
  | callback (event : Event) (callback : Callback Handler)
  /-- A call is made that dispatches no signals. -/
  | call (call : Call) (direct : call.isDirect = true)

/-- One thing that a server does, and the state in which it does it. -/
structure Moment (T : Type) where
  /-- The state before. -/
  server : Server T
  /-- What is done. -/
  deed : Deed

variable {T : Type} [Toolkit T]

namespace Moment

/-- How a moment ends. -/
def outcome (moment : Moment T) : Outcome T Unit :=
  match moment.deed with
  | .dispatch _ _ _ => moment.server.finish ()
  | .callback event callback => moment.server.runCallback event callback
  | .call call _ => (moment.server.call call).map fun _ => ()

/-- The state that a moment leaves. -/
def after (moment : Moment T) : Server T :=
  moment.outcome.server

/-- Whether a moment ends by a fault. -/
def Faults (moment : Moment T) : Prop :=
  moment.outcome.Faults

end Moment

/-! ## The moments of a call -/

/-- The moments of callbacks in turn, up to a fault. -/
def serveMoments (server : Server T) (event : Event) : List (Callback Handler) → List (Moment T)
  | [] => []
  | callback :: rest =>
    let ran := server.runCallback event callback
    ⟨server, .callback event callback⟩ ::
      match ran.result with
      | .error _ => []
      | .ok () => ran.server.serveMoments event rest

/-- The moments of a dispatch. -/
def dispatchMoments (server : Server T) (emission : Emission) : List (Moment T) :=
  ⟨server, .dispatch emission.handle emission.signal emission.event⟩ ::
    server.serveMoments emission.event
      (server.registry.callbacks emission.handle emission.signal)

/-- The moments of events in turn, while the session runs and up to a fault. -/
def runMoments (server : Server T) : List Emission → List (Moment T)
  | [] => []
  | emission :: rest =>
    if server.running then
      let dispatched := server.dispatch emission.handle emission.signal emission.event
      server.dispatchMoments emission ++
        match dispatched.result with
        | .error _ => []
        | .ok _ => dispatched.server.runMoments rest
    else []

/-- The moments of a call. -/
def moments (server : Server T) : Call → List (Moment T)
  | .emit handle signal event => server.dispatchMoments ⟨handle, signal, event⟩
  | .emitNative token event =>
    match server.registry.target? token with
    | some (handle, signal) => server.dispatchMoments ⟨handle, signal, event⟩
    | none => []
  | .run emissions => server.runMoments emissions
  | call => if direct : call.isDirect = true then [⟨server, .call call direct⟩] else []

/-- A native event has the moments of a dispatch, if the token is known. -/
lemma moments_emitNative (server : Server T) (token : Token) (event : Event) :
    server.moments (.emitNative token event) =
      match server.registry.target? token with
      | some (handle, signal) => server.dispatchMoments ⟨handle, signal, event⟩
      | none => [] := rfl

/-- A call that dispatches nothing is one moment. -/
lemma moments_of_isDirect (server : Server T) {call : Call} (h : call.isDirect = true) :
    server.moments call = [⟨server, .call call h⟩] := by
  cases call <;> first | rfl | cases h

/-! ## Faults of a call -/

omit [Toolkit T] in
/-- What is made of the result does not change the fault. -/
lemma result_map_eq_error_iff {α β : Type} {outcome : Outcome T α} {f : α → β} {fault : Fault} :
    (outcome.map f).result = .error fault ↔ outcome.result = .error fault := by
  cases hr : outcome.result <;> simp [Outcome.map, Except.map, hr]

/-- Callbacks in turn end by a fault just if one of their moments does. -/
lemma serve_result_eq_error_iff {server : Server T} {event : Event}
    {callbacks : List (Callback Handler)} {fault : Fault} :
    (server.serve event callbacks).result = .error fault ↔
      ∃ moment ∈ server.serveMoments event callbacks, moment.outcome.result = .error fault := by
  induction callbacks generalizing server with
  | nil => simp [serve, finish, serveMoments]
  | cons callback rest ih =>
    simp only [serveMoments, List.mem_cons, exists_eq_or_imp]
    unfold serve
    dsimp only
    cases hr : (server.runCallback event callback).result with
    | error cause => simp [fail, Moment.outcome, hr]
    | ok done => simpa [Moment.outcome, hr] using ih

/-- A dispatch ends by a fault just if one of its moments does. -/
lemma dispatch_result_eq_error_iff (server : Server T) (emission : Emission) {fault : Fault} :
    (server.dispatch emission.handle emission.signal emission.event).result = .error fault ↔
      ∃ moment ∈ server.dispatchMoments emission, moment.outcome.result = .error fault := by
  simp only [dispatchMoments, List.mem_cons, exists_eq_or_imp]
  rw [← serve_result_eq_error_iff]
  unfold dispatch
  rw [result_map_eq_error_iff]
  simp [Moment.outcome, finish]

/-- Events in turn end by a fault just if one of their moments does. -/
lemma run_result_eq_error_iff {server : Server T} {emissions : List Emission} {fault : Fault} :
    (server.run emissions).result = .error fault ↔
      ∃ moment ∈ server.runMoments emissions, moment.outcome.result = .error fault := by
  induction emissions generalizing server with
  | nil => simp [run, finish, runMoments]
  | cons emission rest ih =>
    unfold run runMoments
    split
    · dsimp only
      simp only [List.mem_append, or_and_right, exists_or]
      rw [← dispatch_result_eq_error_iff]
      cases hr : (server.dispatch emission.handle emission.signal emission.event).result with
      | error cause => simp [fail]
      | ok count =>
        rw [← ih]
        simp [result_map_eq_error_iff]
    · simp [finish]

/-- **A call ends by a fault just if one of its moments does**, and the fault is that of the
moment. -/
theorem call_result_eq_error_iff {server : Server T} {call : Call} {fault : Fault} :
    (server.call call).result = .error fault ↔
      ∃ moment ∈ server.moments call, moment.outcome.result = .error fault := by
  by_cases hdirect : call.isDirect = true
  · rw [moments_of_isDirect server hdirect]
    simp [Moment.outcome, result_map_eq_error_iff]
  · cases call with
    | emit handle signal event =>
      exact result_map_eq_error_iff.trans
        (dispatch_result_eq_error_iff server ⟨handle, signal, event⟩)
    | emitNative token event =>
      refine result_map_eq_error_iff.trans ?_
      rw [moments_emitNative, dispatchNative]
      cases server.registry.target? token with
      | none => simp [finish]
      | some target =>
        exact dispatch_result_eq_error_iff server ⟨target.1, target.2, event⟩
    | run emissions => exact result_map_eq_error_iff.trans run_result_eq_error_iff
    | _ => exact absurd rfl hdirect

/-- A call ends by a fault just if one of its moments does. -/
lemma call_faults_iff {server : Server T} {call : Call} :
    (server.call call).Faults ↔ ∃ moment ∈ server.moments call, moment.Faults := by
  unfold Moment.Faults Outcome.Faults
  simp only [call_result_eq_error_iff]
  exact ⟨fun ⟨fault, moment, hm, hf⟩ => ⟨moment, hm, fault, hf⟩,
    fun ⟨moment, hm, fault, hf⟩ => ⟨fault, moment, hm, hf⟩⟩

/-! ## What is done between two states -/

/-- What a server does from a state on, in which some dispatches may be going on, innermost first.
In between, the toolkit may change by itself. -/
inductive Unfolds (start : Server T) (outer : List Serving) :
    List (Moment T) → Server T → List Serving → Prop
  /-- Nothing is done. -/
  | refl : Unfolds start outer [] start outer
  /-- The toolkit changes by itself, so that its next answers may be any. -/
  | toolkit {moments : List (Moment T)} {server : Server T} {servings : List Serving}
      (toolkit : T) : Unfolds start outer moments server servings →
    Unfolds start outer moments { server with toolkit := toolkit } servings
  /-- A dispatch begins. -/
  | dispatch {moments : List (Moment T)} {server : Server T} {servings : List Serving}
      (handle : Handle) (signal : Signal) (event : Event) :
    Unfolds start outer moments server servings →
    Unfolds start outer (moments ++ [⟨server, .dispatch handle signal event⟩]) server
      (⟨event, server.registry.callbacks handle signal⟩ :: servings)
  /-- The next callback of the innermost dispatch is run. -/
  | callback {moments : List (Moment T)} {server : Server T} {servings : List Serving}
      {event : Event} {callback : Callback Handler} {rest : List (Callback Handler)} :
    Unfolds start outer moments server (⟨event, callback :: rest⟩ :: servings) →
    Unfolds start outer (moments ++ [⟨server, .callback event callback⟩])
      (server.runCallback event callback).server (⟨event, rest⟩ :: servings)
  /-- The innermost dispatch ends, or is given up because of a fault. -/
  | leave {moments : List (Moment T)} {server : Server T} {serving : Serving}
      {servings : List Serving} : Unfolds start outer moments server (serving :: servings) →
    Unfolds start outer moments server servings
  /-- A call is made that dispatches nothing, be it from outside or from a callback. -/
  | direct {moments : List (Moment T)} {server : Server T} {servings : List Serving} (call : Call)
      (direct : call.isDirect = true) : Unfolds start outer moments server servings →
    Unfolds start outer (moments ++ [⟨server, .call call direct⟩]) (server.call call).server
      servings

namespace Unfolds

variable {start server : Server T} {outer servings : List Serving} {moments : List (Moment T)}

/-- What every moment keeps, and every change of the toolkit, is kept. -/
lemma moment_induction {motive : List (Moment T) → Server T → Prop}
    (h : Unfolds start outer moments server servings) (refl : motive [] start)
    (toolkit : ∀ moments server toolkit, motive moments server →
      motive moments { server with toolkit := toolkit })
    (moment : ∀ moments moment left, Unfolds start outer moments moment.server left →
      motive moments moment.server → motive (moments ++ [moment]) moment.after) :
    motive moments server := by
  induction h with
  | refl => exact refl
  | toolkit other _ ih => exact toolkit _ _ other ih
  | dispatch handle signal event hb ih => exact moment _ ⟨_, .dispatch handle signal event⟩ _ hb ih
  | @callback _ _ _ event callback _ hb ih => exact moment _ ⟨_, .callback event callback⟩ _ hb ih
  | leave _ ih => exact ih
  | direct call direct hb ih => exact moment _ ⟨_, .call call direct⟩ _ hb ih

/-- What is done can be cut at any of its moments. -/
lemma cut {earlier later : List (Moment T)} {moment : Moment T}
    (h : Unfolds start outer moments server servings) (hm : moments = earlier ++ moment :: later) :
    ∃ left right, Unfolds start outer earlier moment.server left ∧
      Unfolds moment.after right later server servings := by
  -- the last moment is the one at which to cut, or it comes later
  have hlast {before later : List (Moment T)} {last : Moment T}
      (he : before ++ [last] = earlier ++ moment :: later) :
      (before = earlier ∧ last = moment ∧ later = []) ∨
        ∃ rest, later = rest ++ [last] ∧ before = earlier ++ moment :: rest := by
    rcases List.eq_nil_or_concat later with rfl | ⟨rest, other, rfl⟩
    · obtain ⟨hb, hl⟩ := List.append_inj' he rfl
      exact .inl ⟨hb, List.singleton_inj.1 hl, rfl⟩
    · rw [List.concat_eq_append, ← List.cons_append, ← List.append_assoc] at he
      obtain ⟨hb, hl⟩ := List.append_inj' he rfl
      exact .inr ⟨rest, by rw [List.singleton_inj.1 hl, List.concat_eq_append], hb⟩
  induction h generalizing later with
  | refl => simp at hm
  | toolkit toolkit _ ih =>
    obtain ⟨left, right, hearlier, hlater⟩ := ih hm
    exact ⟨left, right, hearlier, hlater.toolkit toolkit⟩
  | dispatch handle signal event hbefore ih =>
    obtain ⟨rfl, rfl, rfl⟩ | ⟨rest, rfl, hb⟩ := hlast hm
    · exact ⟨_, _, hbefore, .refl⟩
    · obtain ⟨left, right, hearlier, hlater⟩ := ih hb
      exact ⟨left, right, hearlier, hlater.dispatch handle signal event⟩
  | callback hbefore ih =>
    obtain ⟨rfl, rfl, rfl⟩ | ⟨rest, rfl, hb⟩ := hlast hm
    · exact ⟨_, _, hbefore, .refl⟩
    · obtain ⟨left, right, hearlier, hlater⟩ := ih hb
      exact ⟨left, right, hearlier, hlater.callback⟩
  | leave _ ih =>
    obtain ⟨left, right, hearlier, hlater⟩ := ih hm
    exact ⟨left, right, hearlier, hlater.leave⟩
  | direct call direct hbefore ih =>
    obtain ⟨rfl, rfl, rfl⟩ | ⟨rest, rfl, hb⟩ := hlast hm
    · exact ⟨_, _, hbefore, .refl⟩
    · obtain ⟨left, right, hearlier, hlater⟩ := ih hb
      exact ⟨left, right, hearlier, hlater.direct call direct⟩

/-! ### Calls -/

/-- Callbacks in turn. Those after a fault are left over. -/
lemma serve {event : Event} {callbacks : List (Callback Handler)}
    (h : Unfolds start outer moments server (⟨event, callbacks⟩ :: servings)) :
    ∃ rest, Unfolds start outer (moments ++ server.serveMoments event callbacks)
      (server.serve event callbacks).server (⟨event, rest⟩ :: servings) := by
  induction callbacks generalizing server moments with
  | nil =>
    refine ⟨[], ?_⟩
    rw [serveMoments, List.append_nil]
    exact h
  | cons callback rest ih =>
    have hran := h.callback
    unfold serveMoments Server.serve
    dsimp only
    cases hr : (server.runCallback event callback).result with
    | error fault => exact ⟨rest, hran⟩
    | ok done =>
      obtain ⟨left, hrest⟩ := ih hran
      refine ⟨left, ?_⟩
      rwa [List.append_assoc, List.singleton_append] at hrest

/-- A dispatch. -/
lemma dispatchAll (h : Unfolds start outer moments server servings) (emission : Emission) :
    Unfolds start outer (moments ++ server.dispatchMoments emission)
      (server.dispatch emission.handle emission.signal emission.event).server servings := by
  obtain ⟨rest, hserved⟩ := (h.dispatch emission.handle emission.signal emission.event).serve
  rw [List.append_assoc, List.singleton_append] at hserved
  exact hserved.leave

/-- Events in turn. -/
lemma run (h : Unfolds start outer moments server servings) (emissions : List Emission) :
    Unfolds start outer (moments ++ server.runMoments emissions) (server.run emissions).server
      servings := by
  induction emissions generalizing server moments with
  | nil =>
    rw [runMoments, List.append_nil]
    exact h
  | cons emission rest ih =>
    have hdispatched := h.dispatchAll emission
    unfold runMoments Server.run
    split
    · dsimp only
      cases hr : (server.dispatch emission.handle emission.signal emission.event).result with
      | error fault =>
        rw [List.append_nil]
        exact hdispatched
      | ok count =>
        rw [← List.append_assoc]
        exact ih hdispatched
    · rw [List.append_nil]
      exact h

/-- **A call unfolds into its moments**, whether or not it ends by a fault. -/
theorem call (h : Unfolds start outer moments server servings) (call : Call) :
    Unfolds start outer (moments ++ server.moments call) (server.call call).server servings := by
  by_cases hdirect : call.isDirect = true
  · rw [moments_of_isDirect server hdirect]
    exact h.direct call hdirect
  · cases call with
    | emit handle signal event => exact h.dispatchAll ⟨handle, signal, event⟩
    | emitNative token event =>
      have hnative : (server.call (.emitNative token event)).server =
          (server.dispatchNative token event).server := rfl
      rw [hnative, moments_emitNative, dispatchNative]
      cases server.registry.target? token with
      | none =>
        rw [List.append_nil]
        exact h
      | some target => exact h.dispatchAll ⟨target.1, target.2, event⟩
    | run emissions => exact h.run emissions
    | _ => exact absurd rfl hdirect

/-! ### Reachable states -/

/-- What is done leads from reachable states to reachable ones. -/
lemma reachable (h : Unfolds start outer moments server servings) (hr : Reachable start outer) :
    Reachable server servings := by
  induction h with
  | refl => exact hr
  | toolkit toolkit _ ih => exact .toolkit toolkit ih
  | dispatch handle signal event _ ih => exact .enter handle signal event ih
  | callback _ ih => exact .callback ih
  | leave _ ih => exact .leave ih
  | direct call _ _ ih => exact .call call ih

end Unfolds

/-- Every reachable state unfolds from a new server. -/
lemma Reachable.exists_unfolds {server : Server T} {servings : List Serving}
    (h : Reachable server servings) : ∃ (toolkit : T) (config : Config) (display : Option String)
      (start : Server T) (moments : List (Moment T)),
      Server.create toolkit config display = .ok start ∧
        Unfolds start [] moments server servings := by
  induction h with
  | create hc => exact ⟨_, _, _, _, [], hc, .refl⟩
  | call call _ ih =>
    obtain ⟨toolkit, config, display, start, moments, hc, hu⟩ := ih
    exact ⟨toolkit, config, display, start, _, hc, hu.call call⟩
  | toolkit other _ ih =>
    obtain ⟨toolkit, config, display, start, moments, hc, hu⟩ := ih
    exact ⟨toolkit, config, display, start, _, hc, hu.toolkit other⟩
  | enter handle signal event _ ih =>
    obtain ⟨toolkit, config, display, start, moments, hc, hu⟩ := ih
    exact ⟨toolkit, config, display, start, _, hc, hu.dispatch handle signal event⟩
  | callback _ ih =>
    obtain ⟨toolkit, config, display, start, moments, hc, hu⟩ := ih
    exact ⟨toolkit, config, display, start, _, hc, hu.callback⟩
  | leave _ ih =>
    obtain ⟨toolkit, config, display, start, moments, hc, hu⟩ := ih
    exact ⟨toolkit, config, display, start, _, hc, hu.leave⟩

/-! ## The headless toolkit -/

/-- Carries calls out in turn, each after changes of the headless toolkit from outside: the moments,
and the state that is left. -/
def enact (server : Server Headless) :
    List (List Headless.Setting × Call) → List (Moment Headless) × Server Headless
  | [] => ([], server)
  | (settings, call) :: rest =>
    let changed := { server with toolkit := settings.foldl Headless.configure server.toolkit }
    let done := (changed.call call).server.enact rest
    (changed.moments call ++ done.1, done.2)

/-- What calls in turn do unfolds. -/
lemma Unfolds.enact {start server : Server Headless} {outer servings : List Serving}
    {moments : List (Moment Headless)} (h : Unfolds start outer moments server servings)
    (script : List (List Headless.Setting × Call)) :
    Unfolds start outer (moments ++ (server.enact script).1) (server.enact script).2 servings := by
  induction script generalizing server moments with
  | nil =>
    rw [Server.enact, List.append_nil]
    exact h
  | cons entry rest ih =>
    obtain ⟨settings, call⟩ := entry
    have hcalled := (h.toolkit (settings.foldl Headless.configure server.toolkit)).call call
    rw [Server.enact, ← List.append_assoc]
    exact ih hcalled

end Server

end Compositor
