import Compositor.Proofs.Registry.Run
import Compositor.Proofs.Registry.Roster

set_option autoImplicit false

/-!
# Sessions of a roster

A *session* works on a roster in place of tables. It has no native side, so that each request is
answered at once; it only has to remember the dispatches whose actions are running. A process that
waits for its native side lags behind the session: if nothing comes between, it will come to the
state and the outcome that the session has reached already.

## Main definitions

* `Serving`, `Session` — a dispatch whose action is running, and a roster with these.
* `Request`, `Session.step` — what a session is asked, and how it answers.
* `Shows` — a process stands where a session stands.
* `Comes` — a process, with the outcome of its last move, comes to where a session stands.

## Main results

* `comes_serve`, `comes_release`, `comes_attempt`, `comes_call` — the functions of a process come to
  what the session's do.
* `Comes.settles` — a process that waits for its native side comes to an end of its waiting.
-/

namespace Compositor.Registry

variable {α : Type}

/-! ## Sessions -/

/-- A dispatch whose action is running. -/
structure Serving (α : Type) where
  /-- The callbacks that are still to be served. -/
  rest : List (Callback α)
  /-- The event that is served. -/
  event : Event
  /-- The number of all callbacks of the dispatch. -/
  total : ℕ

/-- A roster with the dispatches whose actions are running, newest first. -/
structure Session (α : Type) where
  /-- The roster. -/
  roster : Roster α
  /-- The dispatches. -/
  servings : List (Serving α)

/-- What a session is asked. -/
inductive Request (α : Type) where
  /-- To enrol a subscriber. -/
  | register (handle : Handle) (signal : Signal) (callback : Callback α)
  /-- To serve the subscribers of a pair, if there is one. -/
  | serve (pair : Option (Handle × Signal)) (event : Event)
  /-- To remove the subscribers of a handle. -/
  | unregisterAll (handle : Handle)
  /-- To remove one subscriber. -/
  | unsubscribe (id : SubscriptionId)
  /-- To take back the mark of a destroyed handle. -/
  | revive (handle : Handle)
  /-- To remove everything and refuse further work. -/
  | shutdown
  /-- To go on, since the newest action has ended. -/
  | returned
  /-- To give up the newest dispatch, since its action has failed. -/
  | unwound

namespace Session

/-- The session before the first request. -/
def initial : Session α := ⟨.empty, []⟩

/-- Serves callbacks in turn until one is an action. -/
def serve (roster : Roster α) (servings : List (Serving α)) (event : Event) (total : ℕ) :
    List (Callback α) → Session α × Outcome α
  | [] => (⟨roster, servings⟩, .answered (.count total))
  | .run action :: rest =>
    (⟨roster, ⟨rest, event, total⟩ :: servings⟩, .demands (.run action event))
  | .retire handle :: rest => serve (roster.retire handle) servings event total rest

/-- Goes on with what an operation does after its last listener was disconnected. -/
def follow (roster : Roster α) (servings : List (Serving α)) :
    Sequel α → Session α × Outcome α
  | .reply reply => (⟨roster, servings⟩, .answered reply)
  | .serve rest event total => serve roster servings event total rest

/-- Answers a request. Only the end of an action that does not run and a failure have no outcome. -/
def step (session : Session α) : Request α → Session α × Option (Outcome α)
  | .register handle signal callback =>
    match session.roster.check handle with
    | .error refusal => (session, some (.answered (.refused refusal)))
    | .ok () =>
      ({ session with roster := session.roster.enrol handle signal callback },
        some (.answered (.subscribed session.roster.nextId)))
  | .serve none _ => (session, some (.answered (.count 0)))
  | .serve (some (handle, signal)) event =>
    let callbacks := session.roster.callbacks handle signal
    let served := serve session.roster session.servings event callbacks.length callbacks
    (served.1, some served.2)
  | .unregisterAll handle =>
    ({ session with roster := session.roster.dismiss handle },
      some (.answered (.count (session.roster.listenerCount handle))))
  | .unsubscribe id =>
    ({ session with roster := session.roster.leave id },
      some (.answered (.truth (session.roster.enrolments.any fun enrolment => enrolment.id = id))))
  | .revive handle =>
    ({ session with roster := session.roster.revive handle },
      some (.answered (.truth (session.roster.isRetired handle))))
  | .shutdown => ({ session with roster := session.roster.close }, some (.answered .done))
  | .returned =>
    match session.servings with
    | [] => (session, none)
    | serving :: servings =>
      let served := serve session.roster servings serving.event serving.total serving.rest
      (served.1, some served.2)
  | .unwound => ({ session with servings := session.servings.tail }, none)

end Session

/-- The request that an operation makes of a session, where `find` tells the pair of a native
listener. -/
def Operation.request (find : Token → Option (Handle × Signal)) : Operation α → Request α
  | .register handle signal action => .register handle signal (.run action)
  | .track handle signal => .register handle signal (.retire handle)
  | .dispatch handle signal event => .serve (some (handle, signal)) event
  | .dispatchNative token event => .serve (find token) event
  | .unregisterAll handle => .unregisterAll handle
  | .unsubscribe id => .unsubscribe id
  | .revive handle => .revive handle
  | .shutdown => .shutdown

/-! ## Waiting for the native side -/

/-- Whether the newest of the waiting operations waits for the native side. -/
def awaitsNative : List (Frame α) → Bool
  | .connecting _ _ _ :: _ => true
  | .releasing _ _ :: _ => true
  | _ => false

/-- Whether an outcome is for the caller or for an action, not for the native side. -/
def Outcome.isSeen : Outcome α → Bool
  | .answered _ => true
  | .demands (.run _ _) => true
  | _ => false

/-- The frame of a dispatch whose action is running. -/
def Serving.frame (serving : Serving α) : Frame α :=
  .running serving.rest serving.event serving.total

/-- A process stands where a session stands. -/
structure Shows (session : Session α) (process : Process α) : Prop where
  /-- The tables and the roster know the same. -/
  represents : Represents process.registry session.roster
  /-- The same dispatches are being served. -/
  frames_eq : process.frames = session.servings.map Serving.frame

/-- A process, with the outcome of its last move, comes to where a session stands, with the
session's outcome, as soon as the native side has done what it is asked. -/
inductive Comes : Process α × Outcome α → Session α × Outcome α → Prop
  /-- The process is there. -/
  | seen {session : Session α} {process : Process α} {outcome : Outcome α} :
    outcome.isSeen = true → Shows session process → Comes (process, outcome) (session, outcome)
  /-- A registration that is admitted needs a native listener. -/
  | connecting {registry : Registry α} {roster : Roster α} {servings : List (Serving α)}
      {handle : Handle} {signal : Signal} {callback : Callback α} :
    Represents registry roster → registry.check handle = .ok () →
      registry.append? handle signal callback = none →
      Comes (⟨registry, .connecting handle signal callback :: servings.map Serving.frame⟩,
          .demands (.connect handle signal))
        (⟨roster.enrol handle signal callback, servings⟩, .answered (.subscribed roster.nextId))
  /-- Listeners are disconnected. -/
  | releasing {registry : Registry α} {roster : Roster α} {servings : List (Serving α)}
      (token : Token) (tokens : List Token) (sequel : Sequel α) :
    Represents registry roster →
      Comes (⟨registry, .releasing tokens sequel :: servings.map Serving.frame⟩,
          .demands (.disconnect token))
        (Session.follow roster servings sequel)

/-- Waiting dispatches wait for no native listener. -/
lemma awaitsNative_map_frame (servings : List (Serving α)) :
    awaitsNative (servings.map Serving.frame) = false := by
  cases servings <;> rfl

namespace Comes

variable {process : Process α} {outcome : Outcome α} {target : Session α × Outcome α}

/-- A process whose last outcome is for the caller has come to where the session stands. -/
lemma of_isSeen (h : Comes (process, outcome) target) (hs : outcome.isSeen = true) :
    target.2 = outcome ∧ Shows target.1 process := by
  generalize hp : (process, outcome) = place at h
  cases h with
  | seen _ shows =>
    cases hp
    exact ⟨rfl, shows⟩
  | connecting _ _ _ =>
    cases hp
    cases hs
  | releasing _ _ _ _ =>
    cases hp
    cases hs

/-- A registration that waits for a native listener was admitted and has found none. -/
lemma of_connecting (h : Comes (process, outcome) target) {handle : Handle} {signal : Signal}
    {callback : Callback α} {frames : List (Frame α)}
    (hf : process.frames = .connecting handle signal callback :: frames) :
    ∃ roster servings, Represents process.registry roster ∧
      frames = servings.map Serving.frame ∧ process.registry.check handle = .ok () ∧
      process.registry.append? handle signal callback = none ∧
      target = (⟨roster.enrol handle signal callback, servings⟩,
        .answered (.subscribed roster.nextId)) := by
  generalize hp : (process, outcome) = place at h
  cases h with
  | @seen session _ _ _ shows =>
    cases hp
    have hwaits := awaitsNative_map_frame session.servings
    rw [← shows.frames_eq, hf] at hwaits
    cases hwaits
  | connecting r hc ha =>
    cases hp
    cases hf
    exact ⟨_, _, r, rfl, hc, ha, rfl⟩
  | releasing _ _ _ _ =>
    cases hp
    cases hf

/-- While listeners are disconnected, the session has gone on with what follows. -/
lemma of_releasing (h : Comes (process, outcome) target) {tokens : List Token} {sequel : Sequel α}
    {frames : List (Frame α)} (hf : process.frames = .releasing tokens sequel :: frames) :
    ∃ roster servings, Represents process.registry roster ∧
      frames = servings.map Serving.frame ∧ target = Session.follow roster servings sequel := by
  generalize hp : (process, outcome) = place at h
  cases h with
  | @seen session _ _ _ shows =>
    cases hp
    have hwaits := awaitsNative_map_frame session.servings
    rw [← shows.frames_eq, hf] at hwaits
    cases hwaits
  | connecting _ _ _ =>
    cases hp
    cases hf
  | releasing _ _ _ r =>
    cases hp
    cases hf
    exact ⟨_, _, r, rfl, rfl⟩

/-- A process that waits for nobody but actions has had an outcome for the caller. -/
lemma isSeen_of_awaitsNative (h : Comes (process, outcome) target)
    (hw : awaitsNative process.frames = false) : outcome.isSeen = true := by
  generalize hp : (process, outcome) = place at h
  cases h with
  | seen hs _ =>
    cases hp
    exact hs
  | connecting _ _ _ =>
    cases hp
    cases hw
  | releasing _ _ _ _ =>
    cases hp
    cases hw

end Comes

/-! ## The functions of a process -/

section Functions

variable {registry : Registry α} {roster : Roster α} (r : Represents registry roster)
  (servings : List (Serving α))

include r

/-- Serving callbacks comes to what serving them on the roster does.

**Proof sketch.** Induction on the callbacks. The retirement of a handle is a step of the roster,
and if it leaves listeners to disconnect, serving goes on after them. -/
lemma comes_serve (event : Event) (total : ℕ) (callbacks : List (Callback α)) :
    Comes (Process.serve registry (servings.map Serving.frame) event total callbacks)
      (Session.serve roster servings event total callbacks) := by
  induction callbacks generalizing registry roster with
  | nil => exact .seen rfl ⟨r, rfl⟩
  | cons callback rest ih =>
    cases callback with
    | run action => exact .seen rfl ⟨r, rfl⟩
    | retire handle =>
      rw [Process.serve, Session.serve]
      cases (registry.retire handle).1.map Listener.token with
      | nil => exact ih (r.retire handle)
      | cons token tokens =>
        exact .releasing token tokens (.serve rest event total) (r.retire handle)

/-- Disconnecting listeners comes to what is done after them. -/
lemma comes_release (sequel : Sequel α) (tokens : List Token) :
    Comes (Process.release registry (servings.map Serving.frame) sequel tokens)
      (Session.follow roster servings sequel) := by
  cases tokens with
  | cons token tokens => exact .releasing token tokens sequel r
  | nil =>
    cases sequel with
    | reply reply => exact .seen rfl ⟨r, rfl⟩
    | serve rest event total => exact comes_serve r servings event total rest

/-- A registration comes to an enrolment or a refusal. -/
lemma comes_attempt (handle : Handle) (signal : Signal) (callback : Callback α) {session : Session α}
    {outcome : Outcome α}
    (hs : Session.step ⟨roster, servings⟩ (.register handle signal callback) =
      (session, some outcome)) :
    Comes (Process.attempt registry (servings.map Serving.frame) handle signal callback none)
      (session, outcome) := by
  rw [Session.step, ← r.check_eq] at hs
  unfold Process.attempt
  cases hc : registry.check handle with
  | error refusal =>
    rw [hc] at hs
    cases hs
    exact .seen rfl ⟨r, rfl⟩
  | ok admitted =>
    rw [hc] at hs
    cases hs
    cases ha : registry.append? handle signal callback with
    | some appended =>
      rw [← r.nextId_eq]
      exact .seen rfl ⟨r.enrol_append hc ha, rfl⟩
    | none => exact .connecting r hc ha

/-- Removing a subscriber comes to removing it from the roster. -/
lemma comes_unsubscribe (id : SubscriptionId) :
    Comes (Process.call ⟨registry, servings.map Serving.frame⟩ (.unsubscribe id))
      (⟨roster.leave id, servings⟩,
        .answered (.truth (roster.enrolments.any fun enrolment => enrolment.id = id))) := by
  have hknown := r.isSome_unsubscribe? id
  rw [Process.call]
  cases hu : registry.unsubscribe? id with
  | none =>
    rw [hu] at hknown
    have hunknown : ∀ enrolment ∈ roster.enrolments, enrolment.id ≠ id := by
      intro enrolment he hid
      exact of_decide_eq_false hknown.symm ⟨enrolment, he, hid⟩
    have hany : roster.enrolments.any (fun enrolment => enrolment.id = id) = false := by
      simpa using hunknown
    rw [Roster.leave_eq_self hunknown, hany]
    exact .seen rfl ⟨r, rfl⟩
  | some result =>
    obtain ⟨released, after⟩ := result
    rw [hu] at hknown
    have hany : roster.enrolments.any (fun enrolment => enrolment.id = id) = true := by
      simpa using of_decide_eq_true hknown.symm
    rw [hany]
    exact comes_release (r.leave hu) servings (.reply (.truth true)) _

end Functions

/-- **An operation comes to what the request of it does**, if native listeners are found in the
index. A shutdown may disconnect the listeners in any order.

**Proof sketch.** By the operation. Each begins with one step of the tables, which is the step of
the roster, and ends by disconnecting listeners or by serving callbacks. -/
lemma comes_call {session : Session α} {process : Process α} (s : Shows session process)
    (operation : Operation α) {find : Token → Option (Handle × Signal)}
    (hfind : ∀ token, process.registry.target? token = find token) {next : Session α}
    {outcome : Outcome α} (hs : session.step (operation.request find) = (next, some outcome)) :
    Comes (process.call operation) (next, outcome) := by
  obtain ⟨registry, frames⟩ := process
  obtain ⟨roster, servings⟩ := session
  obtain ⟨r, hf⟩ := s
  dsimp only at r hf hfind
  subst hf
  cases operation with
  | register handle signal action => exact comes_attempt r servings _ _ _ hs
  | track handle signal => exact comes_attempt r servings _ _ _ hs
  | dispatch handle signal event =>
    rw [Operation.request, Session.step, ← r.callbacks_eq] at hs
    cases hs
    exact comes_serve r servings event _ _
  | dispatchNative token event =>
    rw [Process.call, hfind]
    cases ht : find token with
    | none =>
      rw [Operation.request, ht] at hs
      cases hs
      exact .seen rfl ⟨r, rfl⟩
    | some pair =>
      rw [Operation.request, ht, Session.step, ← r.callbacks_eq] at hs
      cases hs
      exact comes_serve r servings event _ _
  | unregisterAll handle =>
    rw [Operation.request, Session.step, ← r.listenerCount_eq] at hs
    cases hs
    exact comes_release (r.dismiss handle) servings (.reply _) _
  | unsubscribe id =>
    cases hs
    exact comes_unsubscribe r servings id
  | revive handle =>
    have hretired : registry.isRetired handle = roster.isRetired handle :=
      r.sameAnswers.isRetired handle
    rw [Operation.request, Session.step, ← hretired] at hs
    cases hs
    exact .seen rfl ⟨r.revive handle, rfl⟩
  | shutdown =>
    cases hs
    exact comes_release r.close servings (.reply .done) _

/-- A registration that waited for its native listener, undisturbed, installs it. -/
lemma attempt_eq_install {registry : Registry α} {handle : Handle} {signal : Signal}
    {callback : Callback α} (hc : registry.check handle = .ok ())
    (ha : registry.append? handle signal callback = none) (frames : List (Frame α))
    (token : Token) :
    Process.attempt registry frames handle signal callback (some token) =
      (⟨registry.install handle signal token callback, frames⟩,
        .answered (.subscribed registry.nextId)) := by
  simp only [Process.attempt, hc, ha]

/-- Answering the native side's part brings a process nearer to where the session stands. -/
lemma Comes.answer {before after : Process α} {outcome next : Outcome α}
    {target : Session α × Outcome α} (h : Comes (before, outcome) target)
    (hw : awaitsNative before.frames = true) {move : Move α}
    (hm : ∀ operation, move ≠ .call operation) (hs : before.step move = some (after, next)) :
    Comes (after, next) target := by
  rcases Process.step_eq_some hs with ⟨operation, rfl, -⟩ |
    ⟨token, handle, signal, callback, frames, rfl, hf, he⟩ |
    ⟨rest, sequel, frames, rfl, hf, he⟩ | ⟨rest, event, total, frames, rfl, hf, -⟩
  · exact absurd rfl (hm operation)
  · obtain ⟨roster, servings, r, rfl, hc, ha, rfl⟩ := h.of_connecting hf
    rw [attempt_eq_install hc ha, r.nextId_eq] at he
    cases he
    exact .seen rfl ⟨r.enrol_install hc ha token, rfl⟩
  · obtain ⟨roster, servings, r, rfl, rfl⟩ := h.of_releasing hf
    rw [← he]
    exact comes_release r servings sequel rest
  · rw [hf] at hw
    cases hw

/-! ## The end of the waiting -/

/-- Turns in which the native side answers what it is asked, with a given token for each listener. -/
def Answers (token : Token) (history : List (Turn α)) : Prop :=
  ∀ turn ∈ history, awaitsNative turn.before.frames = true ∧
    ∃ outcome, turn.happening = .moved .finished outcome ∨
      turn.happening = .moved (.connected token) outcome

/-- A process comes to an end of its waiting for the native side. -/
def Settles (token : Token) (process : Process α) : Prop :=
  ∃ later last, Run process later last ∧ Answers token later ∧ awaitsNative last.frames = false

namespace Settles

variable {token : Token} {process : Process α}

/-- A process that does not wait has settled. -/
lemma of_awaitsNative (h : awaitsNative process.frames = false) : Settles token process :=
  ⟨[], process, .nil, fun _ hm => absurd hm List.not_mem_nil, h⟩

/-- A process that settles after an answer settles. -/
lemma of_answer {after : Process α} {outcome : Outcome α} {move : Move α}
    (hn : awaitsNative process.frames = true) (hm : move = .finished ∨ move = .connected token)
    (h : process.step move = some (after, outcome)) (ha : Settles token after) :
    Settles token process := by
  obtain ⟨later, last, hr, hl, hw⟩ := ha
  have hfirst : Run process [⟨process, .moved move outcome, after⟩] after := .cons .nil (.step h)
  refine ⟨later ++ [⟨process, .moved move outcome, after⟩], last, hfirst.append hr, ?_, hw⟩
  intro turn ht
  rcases List.mem_append.1 ht with ht | ht
  · exact hl turn ht
  · rw [List.mem_singleton.1 ht]
    exact ⟨hn, outcome, hm.imp (congrArg (Happening.moved · outcome))
      (congrArg (Happening.moved · outcome))⟩

/-- Disconnecting listeners in turn comes to what is done after them. -/
lemma release {registry : Registry α} {frames : List (Frame α)} {sequel : Sequel α}
    (h : Settles token (Process.release registry frames sequel []).1) (tokens : List Token) :
    Settles token (Process.release registry frames sequel tokens).1 := by
  induction tokens with
  | nil => exact h
  | cons first rest ih => exact of_answer rfl (.inl rfl) rfl ih

/-- Serving callbacks comes to an action or to an end. -/
lemma serve {frames : List (Frame α)} (hf : awaitsNative frames = false) (registry : Registry α)
    (event : Event) (total : ℕ) (callbacks : List (Callback α)) :
    Settles token (Process.serve registry frames event total callbacks).1 := by
  induction callbacks generalizing registry with
  | nil => exact of_awaitsNative hf
  | cons callback rest ih =>
    cases callback with
    | run action => exact of_awaitsNative rfl
    | retire handle =>
      rw [Process.serve]
      cases (registry.retire handle).1.map Listener.token with
      | nil => exact ih _
      | cons first others =>
        have hrest : Settles token (Process.release (registry.retire handle).2 frames
            (.serve rest event total) []).1 := ih _
        exact hrest.release (first :: others)

end Settles

/-- **A process that waits for its native side comes to an end of its waiting**, whichever token the
native side chooses. -/
theorem Comes.settles {process : Process α} {outcome : Outcome α} {target : Session α × Outcome α}
    (h : Comes (process, outcome) target) (token : Token) : Settles token process := by
  cases hf : process.frames with
  | nil => exact .of_awaitsNative (by rw [hf]; rfl)
  | cons frame frames =>
    cases frame with
    | running rest event total => exact .of_awaitsNative (by rw [hf]; rfl)
    | connecting handle signal callback =>
      obtain ⟨roster, servings, -, rfl, hc, ha, -⟩ := h.of_connecting hf
      have hstep : process.step (.connected token) = some
          (⟨process.registry.install handle signal token callback, servings.map Serving.frame⟩,
            .answered (.subscribed process.registry.nextId)) := by
        simp only [Process.step, hf, attempt_eq_install hc ha]
      refine .of_answer (by rw [hf]; rfl) (.inr rfl) hstep ?_
      exact .of_awaitsNative (awaitsNative_map_frame servings)
    | releasing tokens sequel =>
      obtain ⟨roster, servings, -, rfl, -⟩ := h.of_releasing hf
      have hstep : process.step .finished = some
          (Process.release process.registry (servings.map Serving.frame) sequel tokens) := by
        simp only [Process.step, hf]
      refine .of_answer (by rw [hf]; rfl) (.inl rfl) hstep (Settles.release ?_ tokens)
      cases sequel with
      | reply reply => exact .of_awaitsNative (awaitsNative_map_frame servings)
      | serve rest event total => exact Settles.serve (awaitsNative_map_frame servings) _ _ _ _

end Compositor.Registry
