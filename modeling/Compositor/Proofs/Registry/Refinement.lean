import Compositor.Proofs.Registry.Routing
import Compositor.Proofs.Registry.Session

set_option autoImplicit false

/-!
# The registry refines a roster

If the native side only does what it is asked, and does not call the registry meanwhile, nobody who
calls the registry can tell it from a session that works on a roster. Callers may call from outside
or from inside actions, to any depth, and actions may fail.

The caller's part of a history is read off as a list of requests, which a session replays. A caller
names a native listener by its token, of which a session knows nothing; what the token stands for is
read off the history, too: it is the pair that it was connected for last, unless it has been
disconnected since.

## Main definitions

* `Undisturbed` — the native side does not call the registry.
* `requests`, `responses` — what callers and actions ask in a history, and what they see of it.
* `replay` — a session that is asked the same.

## Main results

* `Run.follows` — a process stands where the session stands, or comes there.
* `refines_roster` — the responses are those of the session, and so is every query.
-/

namespace Compositor.Registry

variable {α : Type}

/-! ## Requests and responses -/

/-- Whether the environment answers what it is asked. -/
def Happening.isAnswer : Happening α → Bool
  | .moved (.call _) _ => false
  | .moved _ _ => true
  | .unwound => false

/-- While the native side connects or disconnects a listener, nothing else happens. -/
def Undisturbed (history : List (Turn α)) : Prop :=
  ∀ turn ∈ history, awaitsNative turn.before.frames = true → turn.happening.isAnswer = true

instance (history : List (Turn α)) : Decidable (Undisturbed history) :=
  inferInstanceAs (Decidable (∀ turn ∈ history, _))

/-- What a session is asked in a turn that has an `earlier` history. -/
def Turn.request? (turn : Turn α) (earlier : List (Turn α)) : Option (Request α) :=
  match turn.happening with
  | .unwound => some .unwound
  | .moved (.call operation) _ => some (operation.request (route earlier))
  | .moved _ _ => if awaitsNative turn.before.frames then none else some .returned

/-- What a session is asked in a history. -/
def requests : List (Turn α) → List (Request α)
  | [] => []
  | turn :: earlier => (turn.request? earlier).toList ++ requests earlier

/-- What callers and actions see of a turn. -/
def Turn.response? (turn : Turn α) : Option (Outcome α) :=
  match turn.happening with
  | .moved _ outcome => if outcome.isSeen then some outcome else none
  | .unwound => none

/-- What callers and actions see of a history. -/
def responses (history : List (Turn α)) : List (Outcome α) :=
  history.filterMap Turn.response?

/-- The session that has answered the requests, with its outcomes, both newest first. -/
def replay : List (Request α) → Session α × List (Outcome α)
  | [] => (.initial, [])
  | request :: earlier =>
    let before := replay earlier
    let stepped := before.1.step request
    (stepped.1, stepped.2.toList ++ before.2)

/-- The name of a new subscriber that an outcome tells. -/
def Outcome.subscribed? : Outcome α → Option SubscriptionId
  | .answered (.subscribed id) => some id
  | _ => none

/-! ## Names -/

/-- Serving callbacks enrols nobody. -/
lemma Session.serve_next (roster : Roster α) (servings : List (Serving α)) (event : Event)
    (total : ℕ) (callbacks : List (Callback α)) :
    (serve roster servings event total callbacks).1.roster.next = roster.next ∧
      (serve roster servings event total callbacks).2.subscribed? = none := by
  induction callbacks generalizing roster with
  | nil => exact ⟨rfl, rfl⟩
  | cons callback rest ih =>
    cases callback with
    | run action => exact ⟨rfl, rfl⟩
    | retire handle => exact ih (roster.retire handle)

/-- A request uses up the next name exactly if its outcome tells it. -/
lemma Session.step_next (session : Session α) (request : Request α) :
    let stepped := session.step request
    stepped.1.roster.next = session.roster.next ∧ stepped.2.bind Outcome.subscribed? = none ∨
      stepped.1.roster.next = session.roster.next + 1 ∧
        stepped.2.bind Outcome.subscribed? = some session.roster.nextId := by
  cases request with
  | register handle signal callback =>
    dsimp only [step]
    cases session.roster.check handle with
    | error refusal => exact .inl ⟨rfl, rfl⟩
    | ok admitted => exact .inr ⟨rfl, rfl⟩
  | serve pair event =>
    cases pair with
    | none => exact .inl ⟨rfl, rfl⟩
    | some pair => exact .inl (serve_next _ _ _ _ _)
  | unregisterAll handle => exact .inl ⟨rfl, rfl⟩
  | unsubscribe id => exact .inl ⟨rfl, rfl⟩
  | revive handle => exact .inl ⟨rfl, rfl⟩
  | shutdown => exact .inl ⟨rfl, rfl⟩
  | returned =>
    obtain ⟨roster, servings⟩ := session
    cases servings with
    | nil => exact .inl ⟨rfl, rfl⟩
    | cons serving servings => exact .inl (serve_next _ _ _ _ _)
  | unwound => exact .inl ⟨rfl, rfl⟩

/-- Names are given in the order of the registrations that succeed, and without gaps. -/
lemma subscribed_replay (asked : List (Request α)) :
    ((replay asked).2.filterMap Outcome.subscribed?).reverse =
      (List.range (replay asked).1.roster.next).map SubscriptionId.mk := by
  induction asked with
  | nil => rfl
  | cons request earlier ih =>
    have hstep := (replay earlier).1.step_next request
    have htold : ∀ told : Option (Outcome α),
        told.toList.filterMap Outcome.subscribed? = (told.bind Outcome.subscribed?).toList := by
      rintro (_ | outcome)
      · rfl
      · cases h : outcome.subscribed? <;> simp [h]
    rw [replay, List.filterMap_append, List.reverse_append, ih, htold]
    rcases hstep with ⟨hnext, hid⟩ | ⟨hnext, hid⟩
    · rw [hid, hnext]
      simp
    · rw [hid, hnext, List.range_succ, List.map_append]
      rfl

/-! ## Following the session -/

/-- A process stands where the session stands that has answered the requests of its history, with the
same outcomes, or it waits for the native side and will come there. -/
inductive Follows (history : List (Turn α)) (process : Process α) : Prop
  /-- The process is there. -/
  | stands : Shows (replay (requests history)).1 process →
    responses history = (replay (requests history)).2 → Follows history process
  /-- The process waits for the native side; its last response is still to come. -/
  | lags {outcome final : Outcome α} : outcome.isSeen = false →
    Comes (process, outcome) ((replay (requests history)).1, final) →
    (replay (requests history)).2 = final :: responses history → Follows history process

/-- A process that comes to where the session stands follows it. -/
lemma Comes.follows {history : List (Turn α)} {before after : Process α} {move : Move α}
    {outcome final : Outcome α}
    (h : Comes (after, outcome)
      ((replay (requests (⟨before, .moved move outcome, after⟩ :: history))).1, final))
    (hf : (replay (requests (⟨before, .moved move outcome, after⟩ :: history))).2 =
      final :: responses history) :
    Follows (⟨before, .moved move outcome, after⟩ :: history) after := by
  cases hseen : outcome.isSeen with
  | true =>
    have hresponses : responses (⟨before, .moved move outcome, after⟩ :: history) =
        outcome :: responses history := by
      simp [responses, Turn.response?, hseen]
    obtain ⟨he, s⟩ := h.of_isSeen hseen
    exact .stands s (by rw [hresponses, hf, ← he])
  | false =>
    have hresponses : responses (⟨before, .moved move outcome, after⟩ :: history) =
        responses history := by
      simp [responses, Turn.response?, hseen]
    exact .lags hseen h (hf.trans (congrArg _ hresponses.symm))

/-- A session has an outcome for every operation. -/
lemma Session.exists_step_request (session : Session α) (operation : Operation α)
    (find : Token → Option (Handle × Signal)) :
    ∃ next final, session.step (operation.request find) = (next, some final) := by
  cases operation with
  | register handle signal action =>
    dsimp only [Operation.request, step]
    cases session.roster.check handle <;> exact ⟨_, _, rfl⟩
  | track handle signal =>
    dsimp only [Operation.request, step]
    cases session.roster.check handle <;> exact ⟨_, _, rfl⟩
  | dispatch handle signal event => exact ⟨_, _, rfl⟩
  | dispatchNative token event =>
    dsimp only [Operation.request]
    cases find token <;> exact ⟨_, _, rfl⟩
  | unregisterAll handle => exact ⟨_, _, rfl⟩
  | unsubscribe id => exact ⟨_, _, rfl⟩
  | revive handle => exact ⟨_, _, rfl⟩
  | shutdown => exact ⟨_, _, rfl⟩

/-- Waiting dispatches have nothing to disconnect. -/
lemma pending_map_frame (servings : List (Serving α)) :
    pending (servings.map Serving.frame) = [] := by
  induction servings with
  | nil => rfl
  | cons serving servings ih => exact ih

section Turns

variable {history : List (Turn α)} {before after : Process α}

/-- While a process waits for the native side, a turn that answers it brings the process nearer to
the session, which is not asked anything. -/
lemma Follows.answer {move : Move α} {outcome : Outcome α} (h : Follows history before)
    (hw : awaitsNative before.frames = true)
    (hanswer : (Happening.moved move outcome).isAnswer = true)
    (ht : before.Turns (.moved move outcome) after) :
    Follows (⟨before, .moved move outcome, after⟩ :: history) after := by
  have hasked : requests (⟨before, .moved move outcome, after⟩ :: history) = requests history := by
    cases move with
    | call operation => cases hanswer
    | connected token => simp [requests, Turn.request?, hw]
    | finished => simp [requests, Turn.request?, hw]
  have hmove : ∀ operation, move ≠ .call operation := by
    rintro operation rfl
    cases hanswer
  cases h with
  | stands s _ =>
    rw [s.frames_eq, awaitsNative_map_frame] at hw
    cases hw
  | lags _ hc hf =>
    cases ht with
    | shutdown _ _ => cases hanswer
    | step hs =>
      rw [← hasked] at hc hf
      exact (hc.answer hw hmove hs).follows hf

/-- While a process waits for the native side, a turn that answers it keeps the index right. -/
lemma Follows.routed_answer {move : Move α} {outcome : Outcome α} (h : Follows history before)
    (hrun : Run .initial history before) (hr : Routed history before)
    (hw : awaitsNative before.frames = true)
    (hanswer : (Happening.moved move outcome).isAnswer = true)
    (ht : before.Turns (.moved move outcome) after) :
    Routed (⟨before, .moved move outcome, after⟩ :: history) after := by
  cases move with
  | call operation => cases hanswer
  | finished => exact hr.of_tokens hrun ht rfl
  | connected token =>
    cases ht with
    | step hs =>
      rcases Process.step_eq_some hs with ⟨operation, hm, -⟩ |
        ⟨token, handle, signal, callback, frames, hm, hf, he⟩ |
        ⟨rest, sequel, frames, hm, -, -⟩ | ⟨rest, event, total, frames, hm, -, -⟩
      · cases hm
      · cases hm
        cases h with
        | stands s _ =>
          rw [s.frames_eq, awaitsNative_map_frame] at hw
          cases hw
        | lags _ hc _ =>
          obtain ⟨roster, servings, -, rfl, hcheck, happend, -⟩ := hc.of_connecting hf
          rw [attempt_eq_install hcheck happend] at he
          cases he
          exact hr.install hf (pending_map_frame servings) token _
      · cases hm
      · cases hm

/-- A process that comes to where the session goes on a request follows it. -/
lemma Comes.follows_of_step {move : Move α} {outcome final : Outcome α} {next : Session α}
    {request : Request α} (h : Comes (after, outcome) (next, final))
    (hasked : (Turn.mk before (.moved move outcome) after).request? history = some request)
    (hstep : (replay (requests history)).1.step request = (next, some final))
    (hsame : responses history = (replay (requests history)).2) :
    Follows (⟨before, .moved move outcome, after⟩ :: history) after := by
  have hreplay : replay (requests (⟨before, .moved move outcome, after⟩ :: history)) =
      (next, final :: (replay (requests history)).2) := by
    simp only [requests, hasked, Option.toList_some, List.singleton_append, replay, hstep]
  have hnext : Comes (after, outcome)
      ((replay (requests (⟨before, .moved move outcome, after⟩ :: history))).1, final) := by
    rwa [hreplay]
  exact hnext.follows (by rw [hreplay, hsame])

/-- A turn in which the session is asked something leads to where the session goes.

**Proof sketch.** By the turn. A call is `comes_call`, where the index finds the native listeners as
the history does since none is waiting to be disconnected. The end of an action goes on with its
dispatch (`comes_serve`), and a failure gives it up on both sides. -/
lemma Follows.ask {happening : Happening α} (h : Follows history before)
    (hr : Routed history before) (hw : awaitsNative before.frames = false)
    (ht : before.Turns happening after) :
    Follows (⟨before, happening, after⟩ :: history) after := by
  cases h with
  | lags hseen hc _ =>
    rw [hc.isSeen_of_awaitsNative hw] at hseen
    cases hseen
  | stands s hsame =>
    cases ht with
    | @unwind frame frames hf =>
      refine .stands ⟨s.represents, ?_⟩ hsame
      have htail := congrArg List.tail hf
      rw [s.frames_eq, ← List.map_tail] at htail
      exact htail.symm
    | @shutdown tokens _ outcome _ he =>
      have hcomes := comes_release s.represents.close (replay (requests history)).1.servings
        (.reply .done) tokens
      rw [← s.frames_eq, he] at hcomes
      exact hcomes.follows_of_step rfl rfl hsame
    | @step move _ outcome hs =>
      rcases Process.step_eq_some hs with ⟨operation, rfl, he⟩ |
        ⟨token, handle, signal, callback, frames, rfl, hf, he⟩ |
        ⟨rest, sequel, frames, rfl, hf, he⟩ | ⟨rest, event, total, frames, rfl, hf, he⟩
      · have hfind : ∀ token, before.registry.target? token = route history token := by
          intro token
          rw [hr token, s.frames_eq, pending_map_frame, if_neg List.not_mem_nil]
        obtain ⟨next, final, hstep⟩ :=
          (replay (requests history)).1.exists_step_request operation (route history)
        have hcomes := comes_call s operation hfind hstep
        rw [he] at hcomes
        exact hcomes.follows_of_step rfl hstep hsame
      · rw [hf] at hw
        cases hw
      · rw [hf] at hw
        cases hw
      · have hservings := s.frames_eq
        rw [hf] at hservings
        obtain ⟨serving, servings, hs', hframe, rfl⟩ := List.map_eq_cons_iff.1 hservings.symm
        cases hframe
        have hcomes := comes_serve s.represents servings serving.event serving.total serving.rest
        rw [he] at hcomes
        have hasked : (Turn.mk before (.moved .finished outcome) after).request? history =
            some .returned := by simp [Turn.request?, hw]
        exact hcomes.follows_of_step hasked (by simp [Session.step, hs']) hsame

end Turns

/-- **A process follows the session of its history**, in every run that the native side does not
disturb.

**Proof sketch.** Induction on the run. While the process waits for the native side, the turn is the
native side's answer (`Follows.answer`); otherwise the session is asked what is asked in the turn
(`Follows.ask`). The index is right all the time, which tells which native listeners are meant. -/
theorem Run.follows {history : List (Turn α)} {process : Process α}
    (h : Run .initial history process) (hu : Undisturbed history) :
    Follows history process ∧ Routed history process := by
  induction h with
  | nil =>
    refine ⟨.stands ⟨.empty, rfl⟩ rfl, fun token => ?_⟩
    simp [Process.initial, route]
  | @cons history before after happening hrun ht ih =>
    rw [Undisturbed, List.forall_mem_cons] at hu
    obtain ⟨hfollows, hrouted⟩ := ih hu.2
    cases hw : awaitsNative before.frames with
    | true =>
      have hanswer := hu.1 hw
      cases happening with
      | unwound => cases hanswer
      | moved move outcome =>
        exact ⟨hfollows.answer hw hanswer ht, hfollows.routed_answer hrun hrouted hw hanswer ht⟩
    | false =>
      refine ⟨hfollows.ask hrouted hw ht, ?_⟩
      cases happening with
      | unwound =>
        cases ht with
        | @unwind frame frames hf =>
          refine hrouted.unwind hf ?_
          rw [hf] at hw
          cases frame with
          | connecting _ _ _ => cases hw
          | releasing _ _ => cases hw
          | running _ _ _ => rfl
      | moved move outcome =>
        refine hrouted.of_tokens hrun ht ?_
        cases move with
        | call operation => rfl
        | finished => rfl
        | connected token =>
          cases ht with
          | step hs =>
            rcases Process.step_eq_some hs with ⟨operation, hm, -⟩ |
              ⟨token, handle, signal, callback, frames, hm, hf, -⟩ |
              ⟨rest, sequel, frames, hm, -, -⟩ | ⟨rest, event, total, frames, hm, -, -⟩
            · cases hm
            · rw [hf] at hw
              cases hw
            · cases hm
            · cases hm

/-! ## The refinement -/

/-- Answers of the native side ask the session nothing, and nothing disturbs them. -/
lemma Answers.requests_append {token : Token} {later : List (Turn α)} (h : Answers token later)
    (history : List (Turn α)) : requests (later ++ history) = requests history := by
  induction later with
  | nil => rfl
  | cons turn later ih =>
    rw [Answers, List.forall_mem_cons] at h
    obtain ⟨⟨hw, outcome, hmove⟩, hlater⟩ := h
    rw [List.cons_append, requests, ih hlater]
    rcases hmove with hmove | hmove <;> simp [Turn.request?, hmove, hw]

/-- Answers of the native side do not disturb a history. -/
lemma Answers.undisturbed_append {token : Token} {later : List (Turn α)} (h : Answers token later)
    {history : List (Turn α)} (hu : Undisturbed history) : Undisturbed (later ++ history) := by
  intro turn hm hw
  rcases List.mem_append.1 hm with hm | hm
  · obtain ⟨-, outcome, hmove | hmove⟩ := h turn hm <;> rw [hmove] <;> rfl
  · exact hu turn hm hw

/-- A process that does not wait for the native side has had the session's outcomes, and answers
every query as the session's roster does. -/
lemma Follows.agrees {history : List (Turn α)} {process : Process α} (h : Follows history process)
    (hw : awaitsNative process.frames = false) :
    responses history = (replay (requests history)).2 ∧
      SameAnswers process.registry (replay (requests history)).1.roster := by
  cases h with
  | stands s hsame => exact ⟨hsame, s.represents.sameAnswers⟩
  | lags hseen hc _ =>
    rw [hc.isSeen_of_awaitsNative hw] at hseen
    cases hseen

/-- **The registry refines a roster.** Take any run in which calls come from outside or from inside
actions, to any depth, in which actions may fail, and which the native side does not disturb.
Whenever the registry does not wait for the native side, all outcomes of the run, which are the
replies to callers and the actions that are run, are those of the session that is asked the same,
and every query is answered from its roster. Whenever it waits, the native side, whichever token it
chooses, leads it to such a point by finitely many answers, and asks for nothing else. The names of
subscribers are 0, 1, 2 and so on in the order of the registrations that succeed.

**Proof sketch.** `Run.follows`: each step of the tables is a step of the roster
(`Represents`), and a process that waits for its native side comes to where the session stands
already (`Comes`), in finitely many steps (`Comes.settles`). -/
theorem refines_roster {history : List (Turn α)} {process : Process α}
    (h : Run .initial history process) (hu : Undisturbed history) :
    (awaitsNative process.frames = false →
      responses history = (replay (requests history)).2 ∧
        SameAnswers process.registry (replay (requests history)).1.roster) ∧
    (∀ token, ∃ later last, Run process later last ∧ Answers token later ∧
      awaitsNative last.frames = false ∧
      responses (later ++ history) = (replay (requests history)).2 ∧
      SameAnswers last.registry (replay (requests history)).1.roster) ∧
    ((replay (requests history)).2.filterMap Outcome.subscribed?).reverse =
      (List.range (replay (requests history)).1.roster.next).map SubscriptionId.mk := by
  have hfollows := (h.follows hu).1
  refine ⟨hfollows.agrees, fun token => ?_, subscribed_replay _⟩
  have hsettles : Settles token process := by
    cases hfollows with
    | stands s _ =>
      refine .of_awaitsNative ?_
      rw [s.frames_eq]
      exact awaitsNative_map_frame _
    | lags _ hc _ => exact hc.settles token
  obtain ⟨later, last, hrun, hanswers, hw⟩ := hsettles
  have hlast := ((h.append hrun).follows (hanswers.undisturbed_append hu)).1.agrees hw
  rw [hanswers.requests_append] at hlast
  exact ⟨later, last, hrun, hanswers, hw, hlast⟩

/-- Moves in which an object is destroyed, and an action that its destruction runs calls the registry
again and fires a listener that is no more. -/
def destruction (handle : Handle) : List (Move Unit) :=
  [.call (.register handle .frame ()), .connected ⟨1⟩, .call (.track handle .destroy),
    .connected ⟨2⟩, .call (.register handle .destroy ()), .call (.dispatchNative ⟨2⟩ .empty),
    .finished, .finished, .call (.unsubscribe ⟨0⟩), .call (.dispatchNative ⟨1⟩ .empty), .finished]

/-- The registry and the session agree on a destruction, of which there are seven responses. -/
theorem refines_roster_destruction :
    let run := play .initial (destruction ⟨16⟩)
    Undisturbed run.1 ∧ (responses run.1).length = 7 ∧
      responses run.1 = (replay (requests run.1)).2 ∧
      SameAnswers run.2.registry (replay (requests run.1)).1.roster := by
  intro run
  have hu : Undisturbed run.1 := by decide
  have hw : awaitsNative run.2.frames = false := by decide
  exact ⟨hu, by decide, (refines_roster (run_play .initial _) hu).1 hw⟩

end Compositor.Registry
