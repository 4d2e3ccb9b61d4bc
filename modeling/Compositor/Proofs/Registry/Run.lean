import Compositor.Registry.Process
import Mathlib.Data.List.Perm.Basic
import Mathlib.Tactic.Common

set_option autoImplicit false

/-!
# Runs of the registry

A *run* is a finite sequence of turns of a process: moves of the environment, each with its
outcome, in any order of nesting. Besides moving, the environment may unwind, which gives up the
newest waiting operation for good. A run is recorded as its *history*, newest turn first.

## Main definitions

* `Happening`, `Turn`, `Process.Turns` — one turn, and which turns are possible.
* `Run` — the finite runs from a process, with their histories.
* `play` — the run of given moves.
* `reuse` — moves in which the handle of a destroyed object is used again.

## Main results

* `Run.append`, `Run.exists_of_suffix` — runs are composed and cut.
* `run_play` — playing moves gives a run.
* `Process.step_eq_some` — the cases of a move.
* `Process.Turns.stacks` — a turn touches the newest waiting operation only.
-/

namespace Compositor.Registry

variable {α : Type}

/-! ## Turns and runs -/

/-- What happens in one turn of a process. -/
inductive Happening (α : Type) where
  /-- The environment makes a move, with the given outcome. -/
  | moved (move : Move α) (outcome : Outcome α)
  /-- The environment unwinds: the newest waiting operation is given up. -/
  | unwound

/-- One turn of a process. -/
structure Turn (α : Type) where
  /-- The process before the turn. -/
  before : Process α
  /-- What happens. -/
  happening : Happening α
  /-- The process after the turn. -/
  after : Process α

/-- Which turns are possible. A shutdown visits the handles in no particular order. -/
inductive Process.Turns (before : Process α) : Happening α → Process α → Prop
  /-- The environment moves. -/
  | step {move : Move α} {after : Process α} {outcome : Outcome α} :
    before.step move = some (after, outcome) → Turns before (.moved move outcome) after
  /-- The environment shuts the registry down, and its listeners are released in any order. -/
  | shutdown {tokens : List Token} {after : Process α} {outcome : Outcome α} :
    tokens.Perm (before.registry.clear.1.map Listener.token) →
    Process.release before.registry.clear.2 before.frames (.reply .done) tokens =
      (after, outcome) →
    Turns before (.moved (.call .shutdown) outcome) after
  /-- The environment unwinds. -/
  | unwind {frame : Frame α} {frames : List (Frame α)} :
    before.frames = frame :: frames → Turns before .unwound ⟨before.registry, frames⟩

/-- The finite runs from a process, with their histories. -/
inductive Run (start : Process α) : List (Turn α) → Process α → Prop
  /-- Nothing has happened yet. -/
  | nil : Run start [] start
  /-- One more turn happens. -/
  | cons {history : List (Turn α)} {before after : Process α} {happening : Happening α} :
    Run start history before → before.Turns happening after →
      Run start (⟨before, happening, after⟩ :: history) after

namespace Run

variable {start middle last : Process α} {history later : List (Turn α)}

/-- A run goes on where another one ended. -/
lemma append (h : Run start history middle) (h' : Run middle later last) :
    Run start (later ++ history) last := by
  induction h' with
  | nil => exact h
  | cons _ ht ih => exact .cons ih ht

/-- What happened up to some turn of a run is a run. -/
lemma exists_of_suffix (h : Run start history last) (hs : later <:+ history) :
    ∃ middle, Run start later middle := by
  induction h with
  | nil =>
    rw [List.suffix_nil.1 hs]
    exact ⟨start, .nil⟩
  | cons hr ht ih =>
    rcases List.suffix_cons_iff.1 hs with rfl | hs
    · exact ⟨_, .cons hr ht⟩
    · exact ih hs

/-- The turns before some turn of a run are a run to where that turn happens. -/
lemma before_of_suffix (h : Run start history last) {turn : Turn α} {earlier : List (Turn α)}
    (hs : turn :: earlier <:+ history) : Run start earlier turn.before := by
  induction h with
  | nil => simp at hs
  | cons hr ht ih =>
    rcases List.suffix_cons_iff.1 hs with he | hs
    · cases he
      exact hr
    · exact ih hs

/-- A turn of a run happens where the turns before it lead. -/
lemma exists_turns_of_mem (h : Run start history last) {turn : Turn α} (hm : turn ∈ history) :
    ∃ earlier, turn :: earlier <:+ history ∧ Run start earlier turn.before ∧
      turn.before.Turns turn.happening turn.after := by
  induction h with
  | nil => cases hm
  | @cons history before after happening hr ht ih =>
    rcases List.mem_cons.1 hm with rfl | hm
    · exact ⟨history, List.suffix_refl _, hr, ht⟩
    · obtain ⟨earlier, hs, hbefore, hturns⟩ := ih hm
      exact ⟨earlier, hs.trans (List.suffix_cons _ _), hbefore, hturns⟩

end Run

/-- Makes one more move of a run. A move that is not possible is passed over. -/
def advance (result : List (Turn α) × Process α) (move : Move α) : List (Turn α) × Process α :=
  match result.2.step move with
  | some (after, outcome) => (⟨result.2, .moved move outcome, after⟩ :: result.1, after)
  | none => result

/-- Plays moves from a process on. -/
def play (start : Process α) (moves : List (Move α)) : List (Turn α) × Process α :=
  moves.foldl advance ([], start)

/-- One more move of a run gives a run. -/
lemma run_advance {start : Process α} {result : List (Turn α) × Process α}
    (h : Run start result.1 result.2) (move : Move α) :
    Run start (advance result move).1 (advance result move).2 := by
  unfold advance
  cases hs : result.2.step move with
  | none => exact h
  | some stepped => exact h.cons (.step hs)

/-- Playing moves gives a run. -/
lemma run_play (start : Process α) (moves : List (Move α)) :
    Run start (play start moves).1 (play start moves).2 := by
  have hplay : ∀ result : List (Turn α) × Process α, Run start result.1 result.2 →
      Run start (moves.foldl advance result).1 (moves.foldl advance result).2 := by
    induction moves with
    | nil => exact fun _ h => h
    | cons move moves ih => exact fun _ h => ih _ (run_advance h move)
  exact hplay ([], start) .nil

/-- Moves in which an object is destroyed, and its handle announced for a new object, while a native
listener is being connected for it. -/
def reuse (handle : Handle) : List (Move Unit) :=
  [.call (.track handle .destroy), .connected ⟨1⟩, .call (.register handle .frame ()),
    .call (.dispatch handle .destroy .empty), .finished, .call (.revive handle), .connected ⟨2⟩]

/-! ## The cases of a move -/

/-- What a move does: a call is the first step of an operation, and an answer goes on with the
newest waiting operation. -/
lemma Process.step_eq_some {before after : Process α} {move : Move α} {outcome : Outcome α}
    (h : before.step move = some (after, outcome)) :
    (∃ operation, move = .call operation ∧ before.call operation = (after, outcome)) ∨
    (∃ token handle signal callback frames, move = .connected token ∧
      before.frames = .connecting handle signal callback :: frames ∧
      attempt before.registry frames handle signal callback (some token) = (after, outcome)) ∨
    (∃ rest sequel frames, move = .finished ∧ before.frames = .releasing rest sequel :: frames ∧
      release before.registry frames sequel rest = (after, outcome)) ∨
    (∃ rest event total frames, move = .finished ∧
      before.frames = .running rest event total :: frames ∧
      serve before.registry frames event total rest = (after, outcome)) := by
  cases move with
  | call operation =>
    refine .inl ⟨operation, rfl, ?_⟩
    simpa [step] using h
  | connected token =>
    cases hf : before.frames with
    | nil => simp [step, hf] at h
    | cons frame frames =>
      cases frame with
      | connecting handle signal callback =>
        refine .inr (.inl ⟨token, handle, signal, callback, frames, rfl, rfl, ?_⟩)
        simpa [step, hf] using h
      | releasing rest sequel => simp [step, hf] at h
      | running rest event total => simp [step, hf] at h
  | finished =>
    cases hf : before.frames with
    | nil => simp [step, hf] at h
    | cons frame frames =>
      cases frame with
      | connecting handle signal callback => simp [step, hf] at h
      | releasing rest sequel =>
        refine .inr (.inr (.inl ⟨rest, sequel, frames, rfl, rfl, ?_⟩))
        simpa [step, hf] using h
      | running rest event total =>
        refine .inr (.inr (.inr ⟨rest, event, total, frames, rfl, rfl, ?_⟩))
        simpa [step, hf] using h

/-! ## The waiting operations -/

/-- The operations that keep waiting, whatever a move leads to. -/
def Move.base (move : Move α) (frames : List (Frame α)) : List (Frame α) :=
  match move with
  | .call _ => frames
  | _ => frames.tail

/-- What keeps waiting during a move waited before it. -/
lemma Move.exists_inner_of_base {move : Move α} {frames inner base : List (Frame α)}
    {frame : Frame α} (h : move.base frames = inner ++ frame :: base) :
    ∃ inner, frames = inner ++ frame :: base := by
  have htail : frames.tail = inner ++ frame :: base → ∃ inner, frames = inner ++ frame :: base := by
    intro ht
    cases frames with
    | nil => simp at ht
    | cons newest frames =>
      rw [List.tail_cons] at ht
      exact ⟨newest :: inner, by rw [ht, List.cons_append]⟩
  cases move with
  | call operation => exact ⟨inner, h⟩
  | connected token => exact htail h
  | finished => exact htail h

/-- Whether a waiting operation waits for a demand to be met. -/
def Frame.Awaits : Frame α → Demand α → Prop
  | .connecting handle signal _, .connect other kind => handle = other ∧ signal = kind
  | .releasing _ _, .disconnect _ => True
  | .running _ event _, .run _ other => event = other
  | _, _ => False

/-- What an outcome leaves of the waiting operations: those below, and on top of them the operation
that waits now, if it does. -/
def Outcome.Stacks (outcome : Outcome α) (base frames : List (Frame α)) : Prop :=
  match outcome with
  | .answered _ => frames = base
  | .demands demand => ∃ frame, frames = frame :: base ∧ frame.Awaits demand

namespace Process

/-- Serving callbacks ends, or waits for an action to run. -/
lemma stacks_serve (registry : Registry α) (frames : List (Frame α)) (event : Event) (total : ℕ)
    (callbacks : List (Callback α)) :
    (serve registry frames event total callbacks).2.Stacks frames
      (serve registry frames event total callbacks).1.frames := by
  induction callbacks generalizing registry with
  | nil => rfl
  | cons callback rest ih =>
    cases callback with
    | run action => exact ⟨_, rfl, rfl⟩
    | retire handle =>
      rw [serve]
      split
      · exact ih _
      · exact ⟨_, rfl, trivial⟩

/-- Disconnecting tokens ends, or waits for the next one to be disconnected. -/
lemma stacks_release (registry : Registry α) (frames : List (Frame α)) (sequel : Sequel α)
    (tokens : List Token) :
    (release registry frames sequel tokens).2.Stacks frames
      (release registry frames sequel tokens).1.frames := by
  cases tokens with
  | cons token tokens => exact ⟨_, rfl, trivial⟩
  | nil =>
    cases sequel with
    | reply reply => rfl
    | serve rest event total => exact stacks_serve registry frames event total rest

/-- A round of a registration ends, or waits for a native listener. -/
lemma stacks_attempt (registry : Registry α) (frames : List (Frame α)) (handle : Handle)
    (signal : Signal) (callback : Callback α) (connected : Option Token) :
    (attempt registry frames handle signal callback connected).2.Stacks frames
      (attempt registry frames handle signal callback connected).1.frames := by
  unfold attempt
  split
  · exact stacks_release ..
  · split
    · exact stacks_release ..
    · split
      · exact ⟨_, rfl, rfl, rfl⟩
      · rfl

/-- A call ends, or waits for what it demands. -/
lemma stacks_call (process : Process α) (operation : Operation α) :
    (process.call operation).2.Stacks process.frames (process.call operation).1.frames := by
  cases operation with
  | register handle signal action => exact stacks_attempt ..
  | track handle signal => exact stacks_attempt ..
  | dispatch handle signal event => exact stacks_serve ..
  | dispatchNative token event =>
    rw [call]
    split
    · exact stacks_serve ..
    · rfl
  | unregisterAll handle => exact stacks_release ..
  | unsubscribe id =>
    rw [call]
    split
    · exact stacks_release ..
    · rfl
  | revive handle => rfl
  | shutdown => exact stacks_release ..

end Process

/-- A move touches the newest waiting operation only. -/
theorem Process.Turns.stacks {before after : Process α} {move : Move α} {outcome : Outcome α}
    (h : before.Turns (.moved move outcome) after) :
    outcome.Stacks (move.base before.frames) after.frames := by
  cases h with
  | @shutdown tokens _ _ hp hr =>
    have hrelease :=
      Process.stacks_release before.registry.clear.2 before.frames (.reply .done) tokens
    rwa [hr] at hrelease
  | step hs =>
    rcases Process.step_eq_some hs with ⟨operation, rfl, he⟩ |
      ⟨token, handle, signal, callback, frames, rfl, hf, he⟩ | ⟨rest, sequel, frames, rfl, hf, he⟩ |
      ⟨rest, event, total, frames, rfl, hf, he⟩
    · have hcall := Process.stacks_call before operation
      rwa [he] at hcall
    · have hattempt := Process.stacks_attempt before.registry frames handle signal callback
        (some token)
      rw [he] at hattempt
      rwa [hf]
    · have hrelease := Process.stacks_release before.registry frames sequel rest
      rw [he] at hrelease
      rwa [hf]
    · have hserve := Process.stacks_serve before.registry frames event total rest
      rw [he] at hserve
      rwa [hf]

end Compositor.Registry
