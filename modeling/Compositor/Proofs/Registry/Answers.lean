import Compositor.Proofs.Registry.Destruction
import Mathlib.Data.Prod.Lex
import Mathlib.Order.OrderIsoNat

set_option autoImplicit false

/-!
# Answers

Where the environment calls nothing it answers what waits. It always can, and each answer brings
the operations that wait nearer to their end, though one callback may be followed by any number of
listeners to disconnect. So they all end unless the environment calls again and again.

## Main definitions

* `Happening.IsCall` — an operation is called.
* `Process.work` — what the waiting operations have still to do.

## Main results

* `Process.exists_answer` — what waits can be answered.
* `Process.Turns.work_lt` — a turn without a call leaves less to do.
* `exists_call_of_endless` — a process that goes on for ever is called again and again.
-/

namespace Compositor.Registry

variable {α : Type}

/-- An operation is called. -/
def Happening.IsCall : Happening α → Prop
  | .moved (.call _) _ => True
  | _ => False

/-- A bound on the answers that a waiting operation needs before it serves another callback. -/
def Frame.answers : Frame α → ℕ
  | .connecting _ _ _ => 2
  | .releasing rest _ => rest.length + 1
  | .running _ _ _ => 1

/-- What the waiting operations have still to do: first the callbacks count, then the answers. -/
def Process.work (process : Process α) : ℕ ×ₗ ℕ :=
  toLex (process.frames.foldr (fun frame n => frame.remaining.length + n) 0,
    process.frames.foldr (fun frame n => frame.answers + n) 0)

/-- What becomes of a waiting operation when it goes on: it ends, or it waits with less to do. -/
def Frame.Dwindles (frame : Frame α) (base frames : List (Frame α)) : Prop :=
  frames = base ∨ ∃ next, frames = next :: base ∧
    (next.remaining.length < frame.remaining.length ∨
      next.remaining.length = frame.remaining.length ∧ next.answers < frame.answers)

namespace Process

variable {before after process : Process α} {happening : Happening α} {frame : Frame α}
  {base frames : List (Frame α)}

/-- There is less to do when an operation has gone on. -/
lemma work_lt_of_dwindles (hb : before.frames = frame :: base)
    (h : frame.Dwindles base after.frames) : after.work < before.work := by
  have hpos : 0 < frame.answers := by cases frame <;> simp [Frame.answers]
  rw [Prod.Lex.lt_iff]
  rcases h with ha | ⟨next, ha, h⟩ <;> simp only [work, hb, ha, ofLex_toLex, List.foldr_cons] <;>
    omega

/-- Serving callbacks uses them up. -/
lemma dwindles_serve (registry : Registry α) (base : List (Frame α)) (event : Event) (total : ℕ)
    (callbacks : List (Callback α)) (hf : callbacks.length ≤ frame.remaining.length) :
    frame.Dwindles base (serve registry base event total callbacks).1.frames := by
  induction callbacks generalizing registry with
  | nil => exact .inl rfl
  | cons callback rest ih =>
    have hrest : rest.length < frame.remaining.length := Nat.lt_of_succ_le hf
    cases callback with
    | run action => exact .inr ⟨_, rfl, .inl hrest⟩
    | retire handle =>
      rw [serve]
      split
      · exact ih _ hrest.le
      · exact .inr ⟨_, rfl, .inl hrest⟩

/-- A turn without a call is about the newest of the waiting operations, which goes on. -/
lemma Turns.dwindles (h : before.Turns happening after) (hc : ¬ happening.IsCall) :
    ∃ frame base, before.frames = frame :: base ∧ frame.Dwindles base after.frames := by
  cases h with
  | shutdown _ _ => exact absurd trivial hc
  | unwind hf => exact ⟨_, _, hf, .inl rfl⟩
  | step hs =>
    rcases step_eq_some hs with ⟨operation, rfl, -⟩ |
      ⟨token, handle, signal, callback, frames, rfl, hf, he⟩ |
      ⟨rest, sequel, frames, rfl, hf, he⟩ | ⟨rest, event, total, frames, rfl, hf, he⟩
    · exact absurd trivial hc
    · obtain rfl := congrArg Prod.fst he
      refine ⟨_, _, hf, ?_⟩
      -- a listener that was connected in vain is disconnected
      have hrelease : ∀ (registry : Registry α) (reply : Reply),
          (Frame.connecting handle signal callback).Dwindles frames
            (release registry frames (.reply reply) [token]).1.frames :=
        fun _ _ => .inr ⟨_, rfl, .inr ⟨rfl, by simp [Frame.answers]⟩⟩
      unfold attempt
      split
      · exact hrelease _ _
      · split
        · exact hrelease _ _
        · exact .inl rfl
    · obtain rfl := congrArg Prod.fst he
      refine ⟨_, _, hf, ?_⟩
      cases rest with
      | cons token tokens =>
        refine .inr ⟨_, rfl, .inr ⟨?_, by simp [Frame.answers]⟩⟩
        cases sequel <;> rfl
      | nil =>
        cases sequel with
        | reply reply => exact .inl rfl
        | serve rest event total => exact dwindles_serve _ _ _ _ _ le_rfl
    · obtain rfl := congrArg Prod.fst he
      exact ⟨_, _, hf, dwindles_serve _ _ _ _ _ le_rfl⟩

/-- A turn without a call leaves less to do. -/
theorem Turns.work_lt (h : before.Turns happening after) (hc : ¬ happening.IsCall) :
    after.work < before.work := by
  obtain ⟨frame, base, hf, hd⟩ := h.dwindles hc
  exact work_lt_of_dwindles hf hd

/-- What waits can be answered. -/
theorem exists_answer (hf : process.frames = frame :: frames) :
    ∃ move outcome after, process.Turns (.moved move outcome) after ∧
      ¬ (Happening.moved move outcome).IsCall := by
  have hstep : ∀ move, (∀ operation, move ≠ .call operation) → (process.step move).isSome →
      ∃ move outcome after, process.Turns (.moved move outcome) after ∧
        ¬ (Happening.moved move outcome).IsCall := by
    intro move hm hs
    obtain ⟨⟨after, outcome⟩, hs⟩ := Option.isSome_iff_exists.1 hs
    refine ⟨move, outcome, after, .step hs, ?_⟩
    cases move with
    | call operation => exact absurd rfl (hm operation)
    | connected token => exact id
    | finished => exact id
  cases frame with
  | connecting handle signal callback =>
    exact hstep (.connected ⟨0⟩) (by simp) (by simp [step, hf])
  | releasing rest sequel => exact hstep .finished (by simp) (by simp [step, hf])
  | running rest event total => exact hstep .finished (by simp) (by simp [step, hf])

end Process

/-- **A process that goes on for ever is called again and again.** -/
theorem exists_call_of_endless {states : ℕ → Process α} {happenings : ℕ → Happening α}
    (h : ∀ n, (states n).Turns (happenings n) (states (n + 1))) (n : ℕ) :
    ∃ m, n ≤ m ∧ (happenings m).IsCall := by
  by_contra hno
  push Not at hno
  have hdown : StrictAnti fun k => (states (n + k)).work :=
    strictAnti_nat_of_succ_lt fun k => (h (n + k)).work_lt (hno (n + k) (Nat.le_add_right n k))
  exact not_strictAnti_of_wellFoundedLT _ hdown

end Compositor.Registry
