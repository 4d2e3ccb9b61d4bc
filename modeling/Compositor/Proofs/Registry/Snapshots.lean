import Compositor.Proofs.Registry.Answers
import Compositor.Proofs.Registry.Callbacks
import Compositor.Proofs.Registry.Retirement

set_option autoImplicit false

/-!
# Dispatches serve a snapshot

A dispatch serves the subscribers that its pair had when it began. Between two of them the
environment may call anything, the same dispatch included, and so the list of subscribers may be
another one each time the dispatch goes on. This module follows what the dispatch invokes itself,
as opposed to what is invoked by the operations on top of it.

## Main definitions

* `Turn.below` — what keeps waiting below the operation whose turn it is.
* `Turn.invoked`, `invocations` — the callbacks that a turn invokes, and those that are invoked at
  some depth of a span.
* `Frame.Serves`, `Standing` — where a dispatch stands.
* `ServesSnapshot` — what a dispatch does.

## Main results

* `Process.Turns.progress` — a turn of the dispatch invokes the callbacks from where it stands on.
* `Executing.standing` — where a dispatch stands after any turns.
* `servesSnapshot_of_run` — every dispatch serves the snapshot of its pair, each subscriber once.
-/

namespace Compositor.Registry

variable {α : Type}

/-! ## What is invoked -/

/-- What keeps waiting below the operation whose turn it is. -/
def Turn.below (turn : Turn α) : List (Frame α) :=
  match turn.happening with
  | .moved move _ => move.base turn.before.frames
  | .unwound => turn.before.frames.tail

/-- The action that is run next, with its event. -/
def Outcome.ran? : Outcome α → Option (α × Event)
  | .demands (.run action event) => some (action, event)
  | _ => none

/-- The action that a turn runs, with its event. -/
def Turn.ran? (turn : Turn α) : Option (α × Event) :=
  match turn.happening with
  | .moved _ outcome => outcome.ran?
  | .unwound => none

/-- The callbacks that a turn invokes: it retires handles, and then may run an action. -/
def Turn.invoked (turn : Turn α) : List (Callback α) :=
  turn.retired.map .retire ++ (turn.ran?.map fun ran => .run ran.1).toList

/-- The callbacks that the operations upon so many waiting ones invoke, the first one first. -/
def invocations (depth : ℕ) (span : List (Turn α)) : List (Callback α) :=
  (span.reverse.filter fun turn => turn.below.length = depth).flatMap Turn.invoked

/-- The newest turn comes last among the invocations, if it is at the depth. -/
lemma invocations_cons (depth : ℕ) (turn : Turn α) (span : List (Turn α)) :
    invocations depth (turn :: span) =
      invocations depth span ++ if turn.below.length = depth then turn.invoked else [] := by
  unfold invocations
  split <;> rename_i h <;> simp [h]

/-- An answer is about the newest of the waiting operations. -/
lemma Move.base_of_ne_call {move : Move α} (h : ∀ operation, move ≠ .call operation)
    (frames : List (Frame α)) : move.base frames = frames.tail := by
  cases move with
  | call operation => exact absurd rfl (h operation)
  | connected token => rfl
  | finished => rfl

/-! ## Runs of an operation -/

/-- The newest turn of a run happens where the others lead, and leads to its end. -/
lemma Run.of_cons {start finish : Process α} {turn : Turn α} {history : List (Turn α)}
    (h : Run start (turn :: history) finish) :
    Run start history turn.before ∧ turn.before.Turns turn.happening turn.after ∧
      turn.after = finish := by
  cases h with
  | cons hr ht => exact ⟨hr, ht, rfl⟩

/-- A run that begins with the call of an operation, and in which that operation waits before each
further turn, is a run of the operation. -/
lemma executing_of_run {start finish : Process α} {operation : Operation α} {outcome : Outcome α}
    {first : Turn α} {later : List (Turn α)} (h : Run start (later ++ [first]) finish)
    (hcall : first.happening = .moved (.call operation) outcome)
    (hw : ∀ turn ∈ later, start.frames.length < turn.before.frames.length) :
    Executing start operation (later ++ [first]) finish := by
  induction later generalizing finish with
  | nil =>
    obtain ⟨hnil, hturns, rfl⟩ := h.of_cons
    obtain ⟨before, happening, after⟩ := first
    cases hnil
    obtain rfl : happening = _ := hcall
    exact .call hturns
  | cons turn later ih =>
    obtain ⟨hbefore, hturns, rfl⟩ := h.of_cons
    rw [List.forall_mem_cons] at hw
    exact .turn (ih hbefore hw.2) hw.1 hturns

/-- Further moves add to the turns. -/
lemma suffix_foldl_advance (moves : List (Move α)) (result : List (Turn α) × Process α) :
    result.1 <:+ (moves.foldl advance result).1 := by
  induction moves generalizing result with
  | nil => exact List.suffix_refl _
  | cons move moves ih =>
    refine List.IsSuffix.trans ?_ (ih (advance result move))
    unfold advance
    split
    · exact List.suffix_cons _ _
    · exact List.suffix_refl _

/-- Playing a call and further moves runs the operation, as long as it waits before each of them. -/
lemma executing_play {start : Process α} {operation : Operation α} {moves : List (Move α)}
    (hw : ∀ turn ∈ (play start (.call operation :: moves)).1.dropLast,
      start.frames.length < turn.before.frames.length) :
    Executing start operation (play start (.call operation :: moves)).1
      (play start (.call operation :: moves)).2 := by
  have hrun := run_play start (.call operation :: moves)
  obtain ⟨later, hl⟩ := suffix_foldl_advance moves (advance ([], start) (.call operation))
  replace hl : (play start (.call operation :: moves)).1 =
      later ++ [⟨start, .moved (.call operation) (start.call operation).2,
        (start.call operation).1⟩] := hl.symm
  rw [hl] at hw hrun ⊢
  rw [List.dropLast_concat] at hw
  exact executing_of_run hrun rfl hw

/-! ## Turns of a dispatch -/

/-- An operation waits while it serves callbacks, of which some remain. -/
def Frame.Serves (frame : Frame α) (rest : List (Callback α)) (event : Event) (total : ℕ) : Prop :=
  frame = .running rest event total ∨ ∃ tokens, frame = .releasing tokens (.serve rest event total)

/-- What serving callbacks leads to: either they are all invoked and the dispatch ends, or some are
and it waits upon what waited before. -/
def Progress (base : List (Frame α)) (event : Event) (callbacks : List (Callback α)) (total : ℕ)
    (invoked : List (Callback α)) (frames : List (Frame α)) (outcome : Outcome α) : Prop :=
  (∀ ran ∈ outcome.ran?, ran.2 = event) ∧
    (frames = base ∧ outcome = .answered (.count total) ∧ invoked = callbacks ∨
      ∃ frame rest, frames = frame :: base ∧ frame.Serves rest event total ∧
        invoked ++ rest = callbacks)

namespace Process

/-- Serving invokes the callbacks that retire handles, and one that runs an action if there is one
left. -/
lemma progress_serve (registry : Registry α) (base : List (Frame α)) (event : Event) (total : ℕ)
    (callbacks : List (Callback α)) :
    Progress base event callbacks total
      (((registry.retirements callbacks).map Prod.fst).map .retire ++
        ((serve registry base event total callbacks).2.ran?.map fun ran => .run ran.1).toList)
      (serve registry base event total callbacks).1.frames
      (serve registry base event total callbacks).2 := by
  induction callbacks generalizing registry with
  | nil => exact ⟨by simp [serve, Outcome.ran?], .inl ⟨rfl, rfl, rfl⟩⟩
  | cons callback rest ih =>
    cases callback with
    | run action =>
      exact ⟨by simp [serve, Outcome.ran?], .inr ⟨_, rest, rfl, .inl rfl, rfl⟩⟩
    | retire handle =>
      rw [serve, retirements]
      cases ht : (registry.retire handle).1 with
      | nil =>
        obtain ⟨hevent, hserved⟩ := ih (registry.retire handle).2
        refine ⟨hevent, hserved.imp ?_ ?_⟩
        · rintro ⟨hf, ho, hi⟩
          exact ⟨hf, ho, by simpa using hi⟩
        · rintro ⟨frame, left, hf, hs, hi⟩
          exact ⟨frame, left, hf, hs, by simpa using hi⟩
      | cons listener listeners =>
        exact ⟨by simp [Outcome.ran?], .inr ⟨_, rest, rfl, .inr ⟨_, rfl⟩, rfl⟩⟩

variable {before after : Process α} {move : Move α} {outcome : Outcome α} {base : List (Frame α)}
  {frame : Frame α} {rest : List (Callback α)} {event : Event} {total : ℕ}

/-- What a move invokes, if it starts to serve the given callbacks. -/
lemma invoked_eq (rest : List (Callback α)) (hs : before.served move = rest) :
    (Turn.mk before (.moved move outcome) after).invoked =
      ((before.registry.retirements rest).map Prod.fst).map .retire ++
        (outcome.ran?.map fun ran => .run ran.1).toList := by
  subst hs
  rfl

/-- The first turn of a dispatch. -/
lemma Turns.progress_call {handle : Handle} {signal : Signal}
    (h : before.Turns (.moved (.call (.dispatch handle signal event)) outcome) after) :
    Progress before.frames event (before.registry.callbacks handle signal)
      (before.registry.callbacks handle signal).length
      (Turn.mk before (.moved (.call (.dispatch handle signal event)) outcome) after).invoked
      after.frames outcome := by
  cases h with
  | step hs =>
    have hcall := Option.some.inj hs
    obtain rfl := congrArg Prod.fst hcall
    obtain rfl := congrArg Prod.snd hcall
    exact progress_serve _ _ _ _ _

/-- A further turn of a dispatch: it goes on with the callbacks that remain. -/
lemma Turns.progress (h : before.Turns (.moved move outcome) after)
    (hm : ∀ operation, move ≠ .call operation) (hf : before.frames = frame :: base)
    (hs : frame.Serves rest event total) :
    Progress base event rest total (Turn.mk before (.moved move outcome) after).invoked
      after.frames outcome := by
  cases h with
  | shutdown _ _ => exact absurd rfl (hm .shutdown)
  | step hstep =>
    rcases step_eq_some hstep with ⟨operation, rfl, -⟩ |
      ⟨token, handle, signal, callback, frames, rfl, hf', -⟩ |
      ⟨tokens, sequel, frames, rfl, hf', he⟩ | ⟨left, other, n, frames, rfl, hf', he⟩
    · exact absurd rfl (hm operation)
    · rw [hf] at hf'
      obtain ⟨rfl, -⟩ := List.cons.inj hf'
      rcases hs with hs | ⟨_, hs⟩ <;> cases hs
    · rw [hf] at hf'
      obtain ⟨rfl, rfl⟩ := List.cons.inj hf'
      rcases hs with hs | ⟨_, hs⟩ <;> cases hs
      obtain rfl := congrArg Prod.fst he
      obtain rfl := congrArg Prod.snd he
      cases tokens with
      | nil =>
        rw [invoked_eq rest (by simp [served, hf])]
        exact progress_serve _ _ _ _ _
      | cons token tokens =>
        -- nothing is invoked while listeners are disconnected
        rw [invoked_eq [] (by simp [served, hf])]
        exact ⟨by simp [release, Outcome.ran?], .inr ⟨_, rest, rfl, .inr ⟨tokens, rfl⟩, rfl⟩⟩
    · rw [hf] at hf'
      obtain ⟨rfl, rfl⟩ := List.cons.inj hf'
      rcases hs with hs | ⟨_, hs⟩ <;> cases hs
      obtain rfl := congrArg Prod.fst he
      obtain rfl := congrArg Prod.snd he
      rw [invoked_eq rest (by simp [served, hf])]
      exact progress_serve _ _ _ _ _

variable {happening : Happening α} {inner : List (Frame α)}

/-- A turn while an operation waits is a turn of something on top of it, which leaves it waiting,
or it goes on itself or is given up. -/
lemma Turns.above_or (h : before.Turns happening after)
    (hf : before.frames = inner ++ frame :: base) :
    ((Turn.mk before happening after).below.length ≠ base.length ∧
      ∃ inner, after.frames = inner ++ frame :: base) ∨
    before.frames = frame :: base ∧
      ((∃ move outcome, happening = .moved move outcome ∧
          ∀ operation, move ≠ .call operation) ∨
        happening = .unwound ∧ after.frames = base) := by
  -- it is enough that the operation keeps waiting below the turn
  have habove : ∀ {move outcome} (inner : List (Frame α)),
      before.Turns (.moved move outcome) after →
      move.base before.frames = inner ++ frame :: base →
      (Turn.mk before (.moved move outcome) after).below.length ≠ base.length ∧
        ∃ inner, after.frames = inner ++ frame :: base := by
    intro move outcome inner ht hb
    refine ⟨?_, ht.exists_inner inner hb⟩
    simp only [Turn.below, hb, List.length_append, List.length_cons]
    omega
  cases happening with
  | moved move outcome =>
    cases inner with
    | nil =>
      cases move with
      | call operation => exact .inl (habove _ h hf)
      | connected token => exact .inr ⟨hf, .inl ⟨_, _, rfl, by simp⟩⟩
      | finished => exact .inr ⟨hf, .inl ⟨_, _, rfl, by simp⟩⟩
    | cons newest inner =>
      cases move with
      | call operation => exact .inl (habove _ h hf)
      | connected token => exact .inl (habove inner h (by rw [hf]; rfl))
      | finished => exact .inl (habove inner h (by rw [hf]; rfl))
  | unwound =>
    cases h with
    | unwind hu =>
      cases inner with
      | nil =>
        obtain ⟨-, rfl⟩ := List.cons.inj (hu.symm.trans hf)
        exact .inr ⟨hf, .inr ⟨rfl, rfl⟩⟩
      | cons newest inner =>
        obtain ⟨-, rfl⟩ := List.cons.inj (hu.symm.trans hf)
        refine .inl ⟨?_, inner, rfl⟩
        simp only [Turn.below, hf, List.cons_append, List.tail_cons, List.length_append,
          List.length_cons]
        omega

end Process

/-! ## Where a dispatch stands -/

/-- Where a dispatch stands after some turns. -/
inductive Standing (start : Process α) (event : Event) (callbacks : List (Callback α))
    (span : List (Turn α)) (now : Process α) : Prop
  /-- It waits, perhaps below other operations, and serves what it has not invoked yet. -/
  | waiting {inner : List (Frame α)} {frame : Frame α} {rest : List (Callback α)} :
    now.frames = inner ++ frame :: start.frames → frame.Serves rest event callbacks.length →
      invocations start.frames.length span ++ rest = callbacks →
      Standing start event callbacks span now
  /-- It has returned and has invoked everything. -/
  | returned : now.frames = start.frames →
      (∃ turn ∈ span.head?, ∃ move,
        turn.happening = .moved move (.answered (.count callbacks.length))) →
      invocations start.frames.length span = callbacks → Standing start event callbacks span now
  /-- It was given up before it had invoked everything. -/
  | unwound (rest : List (Callback α)) : now.frames = start.frames →
      (∃ turn ∈ span.head?, turn.happening = .unwound) →
      invocations start.frames.length span ++ rest = callbacks →
      Standing start event callbacks span now

section Standings

variable {start before after now : Process α} {event : Event} {callbacks rest : List (Callback α)}
  {span : List (Turn α)} {operation : Operation α} {handle : Handle} {signal : Signal}

/-- A dispatch that has not come to an end waits. -/
lemma Standing.exists_frame (h : Standing start event callbacks span now)
    (hlt : start.frames.length < now.frames.length) :
    ∃ inner frame rest, now.frames = inner ++ frame :: start.frames ∧
      frame.Serves rest event callbacks.length ∧
      invocations start.frames.length span ++ rest = callbacks := by
  cases h with
  | waiting hf hs hi => exact ⟨_, _, _, hf, hs, hi⟩
  | returned hf _ _ => exact absurd (congrArg List.length hf) hlt.ne'
  | unwound _ hf _ _ => exact absurd (congrArg List.length hf) hlt.ne'

/-- What a turn of the dispatch itself leads to. -/
lemma standing_of_progress {move : Move α} {outcome : Outcome α}
    (hb : move.base before.frames = start.frames)
    (hp : Progress start.frames event rest callbacks.length
      (Turn.mk before (.moved move outcome) after).invoked after.frames outcome)
    (hi : invocations start.frames.length span ++ rest = callbacks) :
    Standing start event callbacks (⟨before, .moved move outcome, after⟩ :: span) after := by
  have hbelow : (Turn.mk before (.moved move outcome) after).below.length = start.frames.length :=
    congrArg List.length hb
  rcases hp.2 with ⟨hf, rfl, hinvoked⟩ | ⟨frame, left, hf, hs, hinvoked⟩
  · refine .returned hf ⟨_, rfl, move, rfl⟩ ?_
    rw [invocations_cons, if_pos hbelow, hinvoked, hi]
  · refine .waiting (hf.trans (List.nil_append _).symm) hs ?_
    rw [invocations_cons, if_pos hbelow, List.append_assoc, hinvoked, hi]

/-- **Where a dispatch stands after any turns**: it has invoked its callbacks in their order up to
some point, and goes on from there.

**Proof sketch.** Induction on the turns. Only the turns of the dispatch itself invoke anything at
its depth, and what they leave to be served stands in its frame, which no other turn touches. -/
lemma Executing.standing (h : Executing start (.dispatch handle signal event) span now) :
    Standing start event (start.registry.callbacks handle signal) span now := by
  induction h with
  | call ht => exact standing_of_progress rfl ht.progress_call (by rfl)
  | @turn span before after happening _ hlt ht ih =>
    obtain ⟨inner, frame, rest, hf, hs, hi⟩ := ih.exists_frame hlt
    rcases ht.above_or hf with ⟨hbelow, inner, hafter⟩ |
      ⟨hf, ⟨move, outcome, rfl, hm⟩ | ⟨rfl, hafter⟩⟩
    · refine .waiting hafter hs ?_
      rw [invocations_cons, if_neg hbelow, List.append_nil, hi]
    · refine standing_of_progress ?_ (ht.progress hm hf hs) hi
      rw [Move.base_of_ne_call hm, hf, List.tail_cons]
    · refine .unwound rest hafter ⟨_, rfl, rfl⟩ ?_
      rw [invocations_cons]
      simpa [Turn.invoked, Turn.retired, Turn.retirements, Turn.ran?] using hi

/-- The actions that a dispatch runs itself are given its event. -/
lemma Executing.event_eq (h : Executing start (.dispatch handle signal event) span now) :
    ∀ turn ∈ span, turn.below.length = start.frames.length → ∀ ran ∈ turn.ran?, ran.2 = event := by
  induction h with
  | call ht =>
    intro turn hm _
    obtain rfl := List.mem_singleton.1 hm
    exact ht.progress_call.1
  | @turn span before after happening hbefore hlt ht ih =>
    refine List.forall_mem_cons.2 ⟨fun hbelow => ?_, ih⟩
    obtain ⟨inner, frame, rest, hf, hs, -⟩ := hbefore.standing.exists_frame hlt
    rcases ht.above_or hf with ⟨hne, -⟩ | ⟨hf, ⟨move, outcome, rfl, hm⟩ | ⟨rfl, -⟩⟩
    · exact absurd hbelow hne
    · exact (ht.progress hm hf hs).1
    · simp [Turn.ran?]

end Standings

/-! ## Dispatches -/

/-- The first turns of an endless span, the newest one first. -/
def record (turns : ℕ → Turn α) : ℕ → List (Turn α)
  | 0 => [turns 0]
  | n + 1 => turns (n + 1) :: record turns n

/-- **What a dispatch does**, whatever is called while it waits. -/
structure ServesSnapshot (start : Process α) (handle : Handle) (signal : Signal) (event : Event) :
    Prop where
  /-- The subscribers are in the order of their names, so that they are all different. -/
  increasing : (start.registry.subscribersOf handle signal).Pairwise fun first second =>
    first.id.number < second.id.number
  /-- So far it has invoked the callbacks of the first of them, each once, in their order. -/
  sofar {span : List (Turn α)} {now : Process α} :
    Executing start (.dispatch handle signal event) span now →
      invocations start.frames.length span <+:
        (start.registry.subscribersOf handle signal).map Subscriber.callback
  /-- It hands its event to the actions. -/
  event_eq {span : List (Turn α)} {now : Process α} :
    Executing start (.dispatch handle signal event) span now →
      ∀ turn ∈ span, turn.below.length = start.frames.length → ∀ ran ∈ turn.ran?, ran.2 = event
  /-- When it returns it has invoked them all, and it answers with their number. -/
  returned {span : List (Turn α)} {finish : Process α} {reply : Reply} :
    Returns start (.dispatch handle signal event) span finish reply →
      invocations start.frames.length span =
          (start.registry.subscribersOf handle signal).map Subscriber.callback ∧
        reply = .count (start.registry.subscriberCount handle signal)
  /-- It comes to an end by returning, unless it is given up. -/
  ended {span : List (Turn α)} {now : Process α} :
    Executing start (.dispatch handle signal event) span now →
      now.frames.length ≤ start.frames.length →
      (∃ turn ∈ span.head?, turn.happening = .unwound) ∨
        ∃ reply, Returns start (.dispatch handle signal event) span now reply
  /-- Until then what waits can be answered. -/
  answerable {span : List (Turn α)} {now : Process α} :
    Executing start (.dispatch handle signal event) span now →
      start.frames.length < now.frames.length →
      ∃ move outcome after, now.Turns (.moved move outcome) after ∧
        ¬ (Happening.moved move outcome).IsCall
  /-- It does come to an end, unless the environment calls again and again. -/
  exists_call {turns : ℕ → Turn α} :
    (∀ n, Executing start (.dispatch handle signal event) (record turns n) (turns n).after) →
      ∀ n, ∃ m, n ≤ m ∧ (turns m).happening.IsCall

/-- The subscribers of a pair are in the order of their names. -/
lemma Coherent.subscribersOf_increasing {registry : Registry α} (c : Coherent registry)
    (handle : Handle) (signal : Signal) :
    (registry.subscribersOf handle signal).Pairwise fun first second =>
      first.id.number < second.id.number := by
  unfold subscribersOf
  split <;> rename_i hl
  · exact c.ids_increasing (mem_of_listener? hl).1
  · exact .nil

/-- The turns of an endless span follow one another. -/
lemma turns_of_record {start : Process α} {turns : ℕ → Turn α}
    (h : ∀ n, Run start (record turns n) (turns n).after) (n : ℕ) :
    (turns n).after.Turns (turns (n + 1)).happening (turns (n + 1)).after := by
  obtain ⟨hbefore, hturns, -⟩ := (h (n + 1)).of_cons
  have hnewest : ∃ earlier, record turns n = turns n :: earlier := by cases n <;> exact ⟨_, rfl⟩
  obtain ⟨earlier, hnewest⟩ := hnewest
  rw [hnewest] at hbefore
  rwa [hbefore.of_cons.2.2]

/-- **Every dispatch serves the snapshot of its pair**, in every state and at every depth: each
subscriber that the pair had when it began is served once, in the order of their names.

**Proof sketch.** After any turns the dispatch has served its callbacks up to some point, and the
rest stands in its frame (`Executing.standing`). It returns when nothing is left of the rest. Turns
other than calls leave less to do, so it takes calls to go on for ever, by
`exists_call_of_endless`. -/
theorem servesSnapshot_of_run {history : List (Turn α)} {start : Process α}
    (h : Run .initial history start) (handle : Handle) (signal : Signal) (event : Event) :
    ServesSnapshot start handle signal event where
  increasing := h.coherent.subscribersOf_increasing handle signal
  sofar he := by
    cases he.standing with
    | waiting _ _ hi => exact ⟨_, hi⟩
    | returned _ _ hi => exact ⟨[], by rw [List.append_nil, hi]; rfl⟩
    | unwound _ _ _ hi => exact ⟨_, hi⟩
  event_eq he := he.event_eq
  returned hr := by
    obtain ⟨turn, hm, move, ht⟩ := hr.answered
    cases hr.executing.standing with
    | waiting hf _ _ =>
      have hlength := congrArg List.length (hr.frames_eq.symm.trans hf)
      simp only [List.length_append, List.length_cons] at hlength
      omega
    | returned _ hhead hi =>
      obtain ⟨other, ho, _, ht'⟩ := hhead
      obtain rfl := Option.some.inj (hm.symm.trans ho)
      obtain ⟨-, he⟩ := Happening.moved.inj (ht.symm.trans ht')
      refine ⟨hi, (Outcome.answered.inj he).trans ?_⟩
      simp [callbacks, subscriberCount]
    | unwound _ _ hhead _ =>
      obtain ⟨other, ho, ht'⟩ := hhead
      obtain rfl := Option.some.inj (hm.symm.trans ho)
      cases ht.symm.trans ht'
  ended he hle := by
    cases he.standing with
    | waiting hf _ _ =>
      rw [hf, List.length_append, List.length_cons] at hle
      omega
    | returned hf hhead _ =>
      obtain ⟨turn, hm, move, ht⟩ := hhead
      exact .inr ⟨_, he, hf, turn, hm, move, ht⟩
    | unwound _ _ hhead _ => exact .inl hhead
  answerable _ hlt := by
    obtain ⟨frame, frames, hf⟩ := List.exists_cons_of_length_pos (Nat.zero_lt_of_lt hlt)
    exact Process.exists_answer hf
  exists_call he n := by
    obtain ⟨m, hm, hcall⟩ := exists_call_of_endless (turns_of_record fun n => (he n).run) n
    exact ⟨m + 1, hm.trans (Nat.le_succ m), hcall⟩

/-- Moves after which a pair has two subscribers. -/
def subscribed (handle : Handle) (signal : Signal) : List (Move ℕ) :=
  [.call (.register handle signal 1), .connected ⟨1⟩, .call (.register handle signal 2)]

/-- Moves of a dispatch whose first action dispatches the same signal, releases the pair, and has
another subscriber come instead. -/
def reentered (handle : Handle) (signal : Signal) : List (Move ℕ) :=
  [.call (.dispatch handle signal .empty),
    .call (.dispatch handle signal .empty), .finished, .finished,
    .call (.unregisterAll handle), .finished,
    .call (.register handle signal 3), .connected ⟨2⟩,
    .finished, .finished]

/-- A dispatch that is re-entered serves the two subscribers that there were, though only the new
one is left. -/
theorem servesSnapshot_of_run_reentered :
    let start := play .initial (subscribed ⟨16⟩ .frame)
    let finish := play start.2 (reentered ⟨16⟩ .frame)
    Returns start.2 (.dispatch ⟨16⟩ .frame .empty) finish.1 finish.2 (.count 2) ∧
      invocations 0 finish.1 = [.run 1, .run 2] ∧
      finish.2.registry.callbacks ⟨16⟩ .frame = [.run 3] := by
  intro start finish
  have hs := servesSnapshot_of_run (run_play .initial (subscribed ⟨16⟩ .frame)) ⟨16⟩ .frame .empty
  have he : Executing start.2 (.dispatch ⟨16⟩ .frame .empty) finish.1 finish.2 :=
    executing_play (by decide +kernel)
  have hu : NoUnwinding finish.1 := by decide +kernel
  obtain ⟨turn, hm, ht⟩ | ⟨reply, hr⟩ := hs.ended he (by decide +kernel)
  · have hmoved := hu turn (List.mem_of_mem_head? hm)
    rw [ht] at hmoved
    cases hmoved
  · obtain ⟨hi, rfl⟩ := hs.returned hr
    have hcount : start.2.registry.subscriberCount ⟨16⟩ .frame = 2 := by decide +kernel
    have hdepth : start.2.frames.length = 0 := by decide +kernel
    have hlist : start.2.registry.callbacks ⟨16⟩ .frame = [.run 1, .run 2] := by decide +kernel
    rw [hcount] at hr
    rw [hdepth] at hi
    exact ⟨hr, hi.trans hlist, by decide +kernel⟩

end Compositor.Registry
