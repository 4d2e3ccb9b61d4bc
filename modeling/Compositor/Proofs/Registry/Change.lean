import Compositor.Proofs.Registry.Run

set_option autoImplicit false

/-!
# Changes of the tables

All that a turn does to the tables is put into one statement, `exists_change`: the tables go
through a `Change`, and the tokens that the change hands back are disconnected at once or wait in
the frames. What the tables of every run have in common is then proved by cases on changes.

## Main definitions

* `Change` — what a turn can do to the tables.
* `pending` — the tokens that the waiting operations still have to disconnect.

## Main results

* `exists_change` — every turn is a change of the tables, and no token is lost.
-/

namespace Compositor.Registry

variable {α : Type}

/-- The tokens that a move brings. -/
def Move.tokens : Move α → List Token
  | .connected token => [token]
  | _ => []

/-- What a turn with a given move can do to the tables. The tokens are those handed back, which
have to be disconnected. -/
inductive Change (before : Process α) : Move α → List Token → Registry α → Prop
  /-- Nothing changes; a listener that was connected is not wanted. -/
  | keep {move : Move α} : Change before move move.tokens before.registry
  /-- A subscriber is appended; a listener that was connected is not wanted. -/
  | append {move : Move α} {handle : Handle} {signal : Signal} {callback : Callback α}
      {after : Registry α} :
    before.registry.check handle = .ok () →
      before.registry.append? handle signal callback = some after →
      Change before move move.tokens after
  /-- A listener that was connected for a waiting registration is installed. -/
  | install {handle : Handle} {signal : Signal} {token : Token} {callback : Callback α}
      {frames : List (Frame α)} :
    before.frames = .connecting handle signal callback :: frames →
      before.registry.check handle = .ok () →
      before.registry.append? handle signal callback = none →
      Change before (.connected token) [] (before.registry.install handle signal token callback)
  /-- After other changes, a handle is retired. -/
  | retire {move : Move α} {released : List Token} {registry : Registry α} (handle : Handle) :
    Change before move released registry →
      Change before move (released ++ (registry.listenersOf handle).map Listener.token)
        (registry.retire handle).2
  /-- The listeners of a handle are taken. -/
  | take (handle : Handle) :
    Change before (.call (.unregisterAll handle))
      ((before.registry.listenersOf handle).map Listener.token) (before.registry.take handle).2
  /-- A subscriber is removed. -/
  | unsubscribe {id : SubscriptionId} {released : Option Token} {after : Registry α} :
    before.registry.unsubscribe? id = some (released, after) →
      Change before (.call (.unsubscribe id)) released.toList after
  /-- The mark of a handle is taken back. -/
  | revive (handle : Handle) :
    Change before (.call (.revive handle)) [] (before.registry.revive handle)
  /-- Everything is released. -/
  | clear {tokens : List Token} :
    tokens.Perm (before.registry.clear.1.map Listener.token) →
      Change before (.call .shutdown) tokens before.registry.clear.2

/-- The tokens that a waiting operation still has to disconnect. -/
def Frame.pending : Frame α → List Token
  | .releasing rest _ => rest
  | _ => []

/-- The tokens that the waiting operations still have to disconnect. -/
def pending (frames : List (Frame α)) : List Token :=
  frames.flatMap Frame.pending

/-- The token that an outcome has disconnected, if it does. -/
def Outcome.disconnections : Outcome α → List Token
  | .demands (.disconnect token) => [token]
  | _ => []

/-- Where nothing waits, nothing remains to be disconnected. -/
@[simp]
lemma pending_nil : pending ([] : List (Frame α)) = [] := rfl

/-- What remains for the newest operation comes before what remains for the others. -/
@[simp]
lemma pending_cons (frame : Frame α) (frames : List (Frame α)) :
    pending (frame :: frames) = frame.pending ++ pending frames := rfl

namespace Process

variable {before : Process α} {registry : Registry α} {move : Move α} {released : List Token}

/-- Serving callbacks changes the tables further, and hands back tokens that are disconnected at
once or wait.

**Proof sketch.** Induction on the callbacks. An action stops the serving, and so does the
retirement of a handle with listeners, whose first token is disconnected while the others wait. The
retirement of a handle without listeners hands back nothing and goes on. -/
lemma exists_change_serve (h : Change before move released registry) (frames : List (Frame α))
    (event : Event) (total : ℕ) (callbacks : List (Callback α)) :
    ∃ more, Change before move (released ++ more)
        (serve registry frames event total callbacks).1.registry ∧
      (more ++ pending frames).Perm
        (pending (serve registry frames event total callbacks).1.frames ++
          (serve registry frames event total callbacks).2.disconnections) := by
  induction callbacks generalizing released registry with
  | nil =>
    refine ⟨[], ?_, ?_⟩
    · rwa [List.append_nil]
    · simp [serve, Outcome.disconnections]
  | cons callback rest ih =>
    cases callback with
    | run action =>
      refine ⟨[], ?_, ?_⟩
      · rwa [List.append_nil]
      · simp [serve, Outcome.disconnections, Frame.pending]
    | retire handle =>
      have hr := h.retire handle
      have hfst : (registry.retire handle).1 = registry.listenersOf handle := rfl
      rw [serve, hfst]
      cases ht : (registry.listenersOf handle).map Listener.token with
      | nil =>
        rw [ht, List.append_nil] at hr
        exact ih hr
      | cons token tokens =>
        rw [ht] at hr
        refine ⟨token :: tokens, hr, ?_⟩
        simp only [Outcome.disconnections, pending_cons, Frame.pending]
        rw [List.cons_append]
        exact (List.perm_append_singleton _ _).symm

/-- Disconnecting tokens loses none of them. -/
lemma exists_change_release (h : Change before move released registry) (frames : List (Frame α))
    (sequel : Sequel α) (tokens : List Token) :
    ∃ more, Change before move (released ++ more)
        (release registry frames sequel tokens).1.registry ∧
      (tokens ++ more ++ pending frames).Perm
        (pending (release registry frames sequel tokens).1.frames ++
          (release registry frames sequel tokens).2.disconnections) := by
  cases tokens with
  | cons token tokens =>
    refine ⟨[], ?_, ?_⟩
    · rwa [List.append_nil]
    · simp only [release, Outcome.disconnections, pending_cons, Frame.pending]
      rw [List.append_nil, List.cons_append]
      exact (List.perm_append_singleton _ _).symm
  | nil =>
    cases sequel with
    | reply reply =>
      refine ⟨[], ?_, ?_⟩
      · rwa [List.append_nil]
      · simp [release, Outcome.disconnections]
    | serve rest event total => exact exists_change_serve h frames event total rest

/-- One round of a registration installs the listener that was connected, or hands it back. -/
lemma exists_change_attempt (frames : List (Frame α)) (handle : Handle) (signal : Signal)
    (callback : Callback α) (connected : Option Token) (hm : move.tokens = connected.toList)
    (hconnected : ∀ token, connected = some token → move = .connected token ∧
      before.frames = .connecting handle signal callback :: frames) :
    ∃ more, Change before move more
        (attempt before.registry frames handle signal callback connected).1.registry ∧
      (more ++ pending frames).Perm
        (pending (attempt before.registry frames handle signal callback connected).1.frames ++
          (attempt before.registry frames handle signal callback connected).2.disconnections) := by
  unfold attempt
  cases hc : before.registry.check handle with
  | error refusal =>
    have hkeep : Change before move connected.toList before.registry := hm ▸ .keep
    obtain ⟨more, hchange, hperm⟩ :=
      exists_change_release hkeep frames (.reply (.refused refusal)) connected.toList
    exact ⟨_, hchange, hperm⟩
  | ok admitted =>
    cases ha : before.registry.append? handle signal callback with
    | some appended =>
      have happend : Change before move connected.toList appended := hm ▸ .append hc ha
      obtain ⟨more, hchange, hperm⟩ := exists_change_release happend frames
        (.reply (.subscribed before.registry.nextId)) connected.toList
      exact ⟨_, hchange, hperm⟩
    | none =>
      cases connected with
      | none =>
        have hkeep : Change before move (Option.toList none) before.registry := hm ▸ .keep
        refine ⟨[], hkeep, ?_⟩
        simp [Outcome.disconnections, Frame.pending]
      | some token =>
        obtain ⟨rfl, hframes⟩ := hconnected token rfl
        refine ⟨[], .install hframes hc ha, ?_⟩
        simp [Outcome.disconnections]

/-- The first step of an operation is a change of the tables. -/
lemma exists_change_call (before : Process α) (operation : Operation α) :
    ∃ released, Change before (.call operation) released (before.call operation).1.registry ∧
      (released ++ pending before.frames).Perm (pending (before.call operation).1.frames ++
        (before.call operation).2.disconnections) := by
  have hkeep : Change before (.call operation) [] before.registry := .keep
  cases operation with
  | register handle signal action => exact exists_change_attempt _ _ _ _ none rfl nofun
  | track handle signal => exact exists_change_attempt _ _ _ _ none rfl nofun
  | dispatch handle signal event => exact exists_change_serve hkeep _ _ _ _
  | dispatchNative token event =>
    cases ht : before.registry.target? token with
    | none =>
      simp only [call, ht]
      refine ⟨[], hkeep, ?_⟩
      simp [Outcome.disconnections]
    | some target =>
      simp only [call, ht]
      exact exists_change_serve hkeep _ _ _ _
  | unregisterAll handle =>
    obtain ⟨more, hchange, hperm⟩ := exists_change_release (.take handle) before.frames
      (.reply (.count (before.registry.listenersOf handle).length))
      ((before.registry.listenersOf handle).map Listener.token)
    exact ⟨_, hchange, hperm⟩
  | unsubscribe id =>
    cases hu : before.registry.unsubscribe? id with
    | none =>
      simp only [call, hu]
      refine ⟨[], hkeep, ?_⟩
      simp [Outcome.disconnections]
    | some result =>
      simp only [call, hu]
      obtain ⟨more, hchange, hperm⟩ := exists_change_release (.unsubscribe hu) before.frames
        (.reply (.truth true)) result.1.toList
      exact ⟨_, hchange, hperm⟩
  | revive handle =>
    refine ⟨[], .revive handle, ?_⟩
    simp [call, Outcome.disconnections]
  | shutdown =>
    obtain ⟨more, hchange, hperm⟩ := exists_change_release (.clear (List.Perm.refl _))
      before.frames (.reply .done) (before.registry.clear.1.map Listener.token)
    exact ⟨_, hchange, hperm⟩

end Process

/-- **Every turn is a change of the tables**, and the tokens that the change hands back are
disconnected in the turn or wait in the frames.

**Proof sketch.** By the move. A call is `exists_change_call`; an answer goes on with the newest
frame, whose waiting tokens are released (`exists_change_release`), whose callbacks are served
(`exists_change_serve`) or whose registration is attempted again (`exists_change_attempt`). -/
theorem exists_change {before after : Process α} {move : Move α} {outcome : Outcome α}
    (h : before.Turns (.moved move outcome) after) :
    ∃ released, Change before move released after.registry ∧
      (released ++ pending before.frames).Perm
        (pending after.frames ++ outcome.disconnections) := by
  cases h with
  | shutdown hp hr =>
    obtain ⟨more, hchange, hperm⟩ :=
      Process.exists_change_release (.clear hp) before.frames (.reply .done) _
    rw [hr] at hchange hperm
    exact ⟨_, hchange, hperm⟩
  | step hs =>
    rcases Process.step_eq_some hs with ⟨operation, rfl, he⟩ |
      ⟨token, handle, signal, callback, frames, rfl, hf, he⟩ | ⟨rest, sequel, frames, rfl, hf, he⟩ |
      ⟨rest, event, total, frames, rfl, hf, he⟩
    · have hcall := Process.exists_change_call before operation
      rwa [he] at hcall
    · have hm : (Move.connected token : Move α).tokens = (some token).toList := rfl
      have hconnected : ∀ other, some token = some other →
          (Move.connected token : Move α) = .connected other ∧
            before.frames = .connecting handle signal callback :: frames := by
        rintro other ⟨⟩
        exact ⟨rfl, hf⟩
      have hattempt :=
        Process.exists_change_attempt frames handle signal callback (some token) hm hconnected
      rw [he] at hattempt
      rwa [hf]
    · have hkeep : Change before .finished [] before.registry := .keep
      obtain ⟨more, hchange, hperm⟩ := Process.exists_change_release hkeep frames sequel rest
      rw [he] at hchange hperm
      refine ⟨more, hchange, ?_⟩
      have hswap : (more ++ (rest ++ pending frames)).Perm (rest ++ more ++ pending frames) := by
        rw [← List.append_assoc]
        exact List.perm_append_comm.append_right _
      rw [hf]
      exact hswap.trans hperm
    · have hkeep : Change before .finished [] before.registry := .keep
      have hserve := Process.exists_change_serve hkeep frames event total rest
      rw [he] at hserve
      rwa [hf]

end Compositor.Registry
