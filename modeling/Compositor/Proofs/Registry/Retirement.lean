import Compositor.Proofs.Registry.Run
import Compositor.Proofs.Registry.Steps

set_option autoImplicit false

/-!
# Retirements

Handles are retired while callbacks are served, and one turn may retire several of them before an
operation needs the environment. Between two retirements the tables are at rest.

## Main definitions

* `Process.served` — the callbacks that a move starts to serve.
* `retirements`, `Turn.retirements` — the handles that are retired in turn, with the tables after.

## Main results

* `Process.Turns.isRetired` — a handle becomes retired in no other way.
* `Process.Turns.listenersOf_of_mem_retired` — a turn that retires a handle leaves it without
  listeners.
-/

namespace Compositor.Registry

variable {α : Type}

/-- The callbacks that a move starts to serve. -/
def Process.served (process : Process α) : Move α → List (Callback α)
  | .call (.dispatch handle signal _) => process.registry.callbacks handle signal
  | .call (.dispatchNative token _) =>
    match process.registry.target? token with
    | some (handle, signal) => process.registry.callbacks handle signal
    | none => []
  | .finished =>
    match process.frames with
    | .running rest _ _ :: _ => rest
    | .releasing [] (.serve rest _ _) :: _ => rest
    | _ => []
  | _ => []

/-- The handles that serving callbacks retires until it needs the environment, each with the tables
right after its retirement. -/
def retirements (registry : Registry α) : List (Callback α) → List (Handle × Registry α)
  | .retire handle :: rest =>
    let taken := registry.retire handle
    (handle, taken.2) :: if taken.1.isEmpty then retirements taken.2 rest else []
  | _ => []

/-- The handles that a turn retires, each with the tables right after its retirement. -/
def Turn.retirements (turn : Turn α) : List (Handle × Registry α) :=
  match turn.happening with
  | .moved move _ => Registry.retirements turn.before.registry (turn.before.served move)
  | .unwound => []

/-- The handles that a turn retires. -/
def Turn.retired (turn : Turn α) : List Handle :=
  turn.retirements.map Prod.fst

/-! ## Serving -/

/-- A retired handle has no listeners, and the others keep theirs. -/
lemma listenersOf_retire (registry : Registry α) (handle other : Handle) :
    (registry.retire handle).2.listenersOf other =
      if other = handle then [] else registry.listenersOf other :=
  listenersOf_take { registry with retired := registry.retired.insert handle } handle other

namespace Process

variable (registry : Registry α) (frames : List (Frame α)) (event : Event) (total : ℕ)
  (callbacks : List (Callback α))

/-- Serving callbacks gives no handle a listener. -/
lemma listenersOf_serve_of_eq_nil {handle : Handle} (h : registry.listenersOf handle = []) :
    (serve registry frames event total callbacks).1.registry.listenersOf handle = [] := by
  induction callbacks generalizing registry with
  | nil => exact h
  | cons callback rest ih =>
    cases callback with
    | run action => exact h
    | retire other =>
      have ht : (registry.retire other).2.listenersOf handle = [] := by
        rw [listenersOf_retire, h, ite_self]
      rw [serve]
      split
      · exact ih _ ht
      · exact ht

/-- Serving callbacks leaves a handle that is retired without listeners. -/
lemma listenersOf_serve_of_mem {handle : Handle}
    (h : handle ∈ (retirements registry callbacks).map Prod.fst) :
    (serve registry frames event total callbacks).1.registry.listenersOf handle = [] := by
  induction callbacks generalizing registry with
  | nil => cases h
  | cons callback rest ih =>
    cases callback with
    | run action => cases h
    | retire other =>
      rw [retirements, List.map_cons, List.mem_cons] at h
      rw [serve]
      cases ht : (registry.retire other).1 with
      | nil =>
        rcases h with rfl | h
        · exact listenersOf_serve_of_eq_nil _ _ _ _ _ (by rw [listenersOf_retire, if_pos rfl])
        · rw [ht] at h
          exact ih _ h
      | cons listener listeners =>
        rcases h with rfl | h
        · exact (listenersOf_retire _ _ _).trans (if_pos rfl)
        · simp [ht] at h

/-- Serving callbacks marks no handle but those that are retired. -/
lemma isRetired_serve {handle : Handle}
    (h : (serve registry frames event total callbacks).1.registry.isRetired handle = true) :
    registry.isRetired handle = true ∨ handle ∈ (retirements registry callbacks).map Prod.fst := by
  induction callbacks generalizing registry with
  | nil => exact .inl h
  | cons callback rest ih =>
    cases callback with
    | run action => exact .inl h
    | retire other =>
      rw [retirements, List.map_cons, List.mem_cons]
      rw [serve] at h
      have hmark : (registry.retire other).2.isRetired handle = true →
          registry.isRetired handle = true ∨ handle = other := by
        rw [isRetired_retire, Bool.or_eq_true, decide_eq_true_iff]
        exact Or.symm
      cases ht : (registry.retire other).1 with
      | nil =>
        rw [ht] at h
        rcases ih _ h with h | h
        · exact (hmark h).imp_right .inl
        · exact .inr (.inr (by simpa using h))
      | cons listener listeners =>
        rw [ht] at h
        exact (hmark h).imp_right .inl

end Process

/-! ## Turns -/

namespace Process

/-- Disconnecting tokens before an answer does nothing to the tables. -/
lemma registry_release_reply (registry : Registry α) (frames : List (Frame α)) (reply : Reply)
    (tokens : List Token) :
    (release registry frames (.reply reply) tokens).1.registry = registry := by
  cases tokens <;> rfl

/-- A round of a registration marks no handle. -/
lemma isRetired_attempt (registry : Registry α) (frames : List (Frame α)) (handle : Handle)
    (signal : Signal) (callback : Callback α) (connected : Option Token) (other : Handle) :
    (attempt registry frames handle signal callback connected).1.registry.isRetired other =
      registry.isRetired other := by
  unfold attempt
  split
  · rw [registry_release_reply]
  · split
    · rename_i appended ha
      rw [registry_release_reply, Registry.isRetired, (marks_append ha).1]
      rfl
    · split <;> rfl

/-- A call either serves callbacks, or serves none and marks no handle. -/
lemma call_serves_or (before : Process α) (operation : Operation α) :
    (∃ frames event total, (serve before.registry frames event total
        (before.served (.call operation))).1 = (before.call operation).1) ∨
    before.served (.call operation) = [] ∧
      ∀ handle, (before.call operation).1.registry.isRetired handle = true →
        before.registry.isRetired handle = true := by
  cases operation with
  | register handle signal action =>
    refine .inr ⟨rfl, fun other hh => ?_⟩
    rwa [call, isRetired_attempt] at hh
  | track handle signal =>
    refine .inr ⟨rfl, fun other hh => ?_⟩
    rwa [call, isRetired_attempt] at hh
  | dispatch handle signal event => exact .inl ⟨_, event, _, rfl⟩
  | dispatchNative token event =>
    cases ht : before.registry.target? token with
    | none =>
      refine .inr ⟨by simp [served, ht], fun other hh => ?_⟩
      simpa [call, ht] using hh
    | some pair =>
      refine .inl ⟨before.frames, event, (before.registry.callbacks pair.1 pair.2).length, ?_⟩
      simp [call, served, ht]
  | unregisterAll handle =>
    refine .inr ⟨rfl, fun other hh => ?_⟩
    rwa [call, registry_release_reply] at hh
  | unsubscribe id =>
    refine .inr ⟨rfl, fun other hh => ?_⟩
    rw [call] at hh
    split at hh
    · rename_i hu
      rwa [registry_release_reply, Registry.isRetired, (marks_unsubscribe hu).1] at hh
    · exact hh
  | revive handle =>
    refine .inr ⟨rfl, fun other hh => ?_⟩
    rw [call, isRetired_revive, Bool.and_eq_true] at hh
    exact hh.2
  | shutdown =>
    refine .inr ⟨rfl, fun other hh => ?_⟩
    rw [call, registry_release_reply] at hh
    simp [Registry.isRetired, clear] at hh

variable {before after : Process α} {happening : Happening α} {handle : Handle}

/-- A turn either serves callbacks, or retires no handle and marks none. -/
lemma Turns.serves_or (h : before.Turns happening after) :
    (∃ callbacks frames event total,
      (Turn.mk before happening after).retirements = before.registry.retirements callbacks ∧
        (serve before.registry frames event total callbacks).1 = after) ∨
    (Turn.mk before happening after).retirements = [] ∧
      ∀ handle, after.registry.isRetired handle = true →
        before.registry.isRetired handle = true := by
  cases h with
  | unwind hf => exact .inr ⟨rfl, fun handle hr => hr⟩
  | @shutdown tokens _ _ hp hr =>
    have hreg := registry_release_reply before.registry.clear.2 before.frames .done tokens
    rw [hr] at hreg
    refine .inr ⟨rfl, fun handle hh => ?_⟩
    rw [hreg] at hh
    simp [Registry.isRetired, clear] at hh
  | step hs =>
    rcases step_eq_some hs with ⟨operation, rfl, he⟩ |
      ⟨token, handle, signal, callback, frames, rfl, hf, he⟩ | ⟨rest, sequel, frames, rfl, hf, he⟩ |
      ⟨rest, event, total, frames, rfl, hf, he⟩
    · obtain rfl := congrArg Prod.fst he
      rcases call_serves_or before operation with ⟨frames, event, total, hserve⟩ | ⟨hserved, hmarks⟩
      · exact .inl ⟨_, frames, event, total, rfl, hserve⟩
      · refine .inr ⟨?_, hmarks⟩
        dsimp only [Turn.retirements]
        rw [hserved]
        rfl
    · obtain rfl := congrArg Prod.fst he
      refine .inr ⟨rfl, fun other hh => ?_⟩
      rwa [isRetired_attempt] at hh
    · obtain rfl := congrArg Prod.fst he
      cases rest with
      | cons token tokens =>
        refine .inr ⟨?_, fun other hh => hh⟩
        simp [Turn.retirements, served, hf, Registry.retirements]
      | nil =>
        cases sequel with
        | reply reply =>
          refine .inr ⟨?_, fun other hh => hh⟩
          simp [Turn.retirements, served, hf, Registry.retirements]
        | serve rest event total =>
          refine .inl ⟨rest, frames, event, total, ?_, rfl⟩
          simp [Turn.retirements, served, hf]
    · obtain rfl := congrArg Prod.fst he
      refine .inl ⟨rest, frames, event, total, ?_, rfl⟩
      simp [Turn.retirements, served, hf]

/-- A turn that retires a handle leaves it without listeners. -/
theorem Turns.listenersOf_of_mem_retired (h : before.Turns happening after)
    (hm : handle ∈ (Turn.mk before happening after).retired) :
    after.registry.listenersOf handle = [] := by
  unfold Turn.retired at hm
  rcases h.serves_or with ⟨callbacks, frames, event, total, hr, rfl⟩ | ⟨hr, -⟩
  · rw [hr] at hm
    exact listenersOf_serve_of_mem _ _ _ _ _ hm
  · rw [hr] at hm
    cases hm

/-- A handle becomes retired in no other way than by a retirement. -/
theorem Turns.isRetired (h : before.Turns happening after)
    (ha : after.registry.isRetired handle = true) :
    before.registry.isRetired handle = true ∨
      handle ∈ (Turn.mk before happening after).retired := by
  unfold Turn.retired
  rcases h.serves_or with ⟨callbacks, frames, event, total, hr, rfl⟩ | ⟨-, hmark⟩
  · rw [hr]
    exact isRetired_serve _ _ _ _ _ ha
  · exact .inl (hmark handle ha)

end Process

end Compositor.Registry
