import Compositor.Proofs.Server.Census
import Compositor.Proofs.Server.Moments

set_option autoImplicit false

/-!
# Events up to the end of the session

Events are processed in turn until none is left or the session is no longer running. What ends the
session is found out only by dispatching, since an event may lead to a key binding that terminates.
This module says how far processing gets, in terms of the states that dispatching all events in turn
would go through, and that it does not matter in which portions the events arrive.

## Main definitions

* `Server.Untroubled` — no dispatch that is made while the session runs ends by a fault.
* `Server.StopsAfter` — the shortest nonempty part of the events that ends the session.

## Main results

* `Server.run_append` — events in two portions.
* `Server.untroubled_iff` — when processing comes to a result.
* `Server.run_stops_at_termination` — how far processing gets.
-/

namespace Compositor

/-- A result that is made into itself leaves the outcome as it is. -/
lemma Outcome.map_eq_self {T α : Type} {outcome : Outcome T α} {f : α → α} (h : ∀ a, f a = a) :
    outcome.map f = outcome := by
  obtain rfl : f = id := funext h
  obtain ⟨_ | _, _⟩ := outcome <;> rfl

/-- What is made of a result in two steps is made of it in one. -/
lemma Outcome.map_map {T α β γ : Type} (outcome : Outcome T α) (f : α → β) (g : β → γ) :
    (outcome.map f).map g = outcome.map fun a => g (f a) := by
  obtain ⟨_ | _, _⟩ := outcome <;> rfl

namespace Server

variable {T : Type} [Toolkit T] {server : Server T} {emission : Emission}
  {emissions rest : List Emission} {n : ℕ}

/-- No dispatch that is made while the session runs ends by a fault. -/
def Untroubled (server : Server T) (emissions : List Emission) : Prop :=
  ∀ n emission, emissions[n]? = some emission →
    (∀ k ≤ n, (server.emitAll (emissions.take k)).running = true) →
      ¬ ((server.emitAll (emissions.take n)).dispatch emission.handle emission.signal
        emission.event).Faults

/-- The first events are the shortest nonempty part of all that ends the session. -/
structure StopsAfter (server : Server T) (emissions : List Emission) (n : ℕ) : Prop where
  /-- There is at least one. -/
  pos : 0 < n
  /-- They are there. -/
  le_length : n ≤ emissions.length
  /-- The session is over after them. -/
  stopped : (server.emitAll (emissions.take n)).running = false
  /-- It is not over after fewer. -/
  running : ∀ k, 0 < k → k < n → (server.emitAll (emissions.take k)).running = true

/-! ## One event -/

/-- No event changes nothing. -/
@[simp]
lemma emitAll_nil (server : Server T) : server.emitAll [] = server := rfl

/-- Events are dispatched from the first one on. -/
@[simp]
lemma emitAll_cons (server : Server T) (emission : Emission) (rest : List Emission) :
    server.emitAll (emission :: rest) =
      (server.dispatch emission.handle emission.signal emission.event).server.emitAll rest := rfl

/-- Nothing is processed unless the session runs. -/
lemma run_of_not_running (h : server.running = false) (emissions : List Emission) :
    server.run emissions = server.finish (0, emissions) := by
  cases emissions with
  | nil => rfl
  | cons emission rest =>
    unfold run
    rw [h]
    rfl

/-- Events in turn end by the fault of the first one, and the others are not processed. -/
lemma run_cons_of_faults (h : server.running = true) (rest : List Emission) {fault : Fault}
    (hf : (server.dispatch emission.handle emission.signal emission.event).result =
      .error fault) :
    server.run (emission :: rest) =
      (server.dispatch emission.handle emission.signal emission.event).server.fail fault := by
  rw [run, if_pos h]
  dsimp only
  rw [hf]

/-- Events in turn go on after the first one, which is counted. -/
lemma run_cons_of_result (h : server.running = true) (rest : List Emission) {count : ℕ}
    (hc : (server.dispatch emission.handle emission.signal emission.event).result = .ok count) :
    server.run (emission :: rest) =
      ((server.dispatch emission.handle emission.signal emission.event).server.run rest).map
        fun done => (done.1 + 1, done.2) := by
  rw [run, if_pos h]
  dsimp only
  rw [hc]

/-! ## Two portions -/

/-- **Events in two portions.** To process events in two portions is to process them in one: what
is left of the first portion comes before what is left of the second, and a fault in the first one
ends it all. -/
theorem run_append (server : Server T) (first second : List Emission) :
    server.run (first ++ second) =
      match (server.run first).result with
      | .error fault => (server.run first).server.fail fault
      | .ok done => ((server.run first).server.run second).map fun more =>
          (done.1 + more.1, done.2 ++ more.2) := by
  induction first generalizing server with
  | nil =>
    rw [List.nil_append]
    refine (Outcome.map_eq_self fun more => ?_).symm
    rw [Nat.zero_add, List.nil_append]
  | cons emission rest ih =>
    by_cases hr : server.running = true
    · cases hd : (server.dispatch emission.handle emission.signal emission.event).result with
      | error fault =>
        rw [List.cons_append, run_cons_of_faults hr _ hd, run_cons_of_faults hr _ hd]
        rfl
      | ok count =>
        rw [List.cons_append, run_cons_of_result hr _ hd, run_cons_of_result hr _ hd, ih]
        obtain ⟨result, after⟩ :=
          (server.dispatch emission.handle emission.signal emission.event).server.run rest
        cases result with
        | error fault => rfl
        | ok done =>
          rw [Outcome.map_map]
          refine congrArg (Outcome.map _) (funext fun more => ?_)
          rw [Nat.add_right_comm]
    · have hn : server.running = false := Bool.eq_false_iff.2 hr
      simp [run_of_not_running hn, finish, Outcome.map, Except.map]

/-! ## How far processing gets -/

/-- Events are untroubled if the first one is and the others are after it. -/
lemma untroubled_cons (h : server.running = true) : Untroubled server (emission :: rest) ↔
    ¬ (server.dispatch emission.handle emission.signal emission.event).Faults ∧
      Untroubled (server.dispatch emission.handle emission.signal emission.event).server rest := by
  constructor
  · intro hu
    refine ⟨hu 0 emission rfl fun k hk => ?_, fun n other ho hrunning => ?_⟩
    · obtain rfl := Nat.le_zero.1 hk
      exact h
    · refine hu (n + 1) other ho fun k hk => ?_
      cases k with
      | zero => exact h
      | succ k => exact hrunning k (Nat.le_of_succ_le_succ hk)
  · rintro ⟨hfirst, hrest⟩ n other ho hrunning
    cases n with
    | zero =>
      obtain rfl : emission = other := Option.some.inj ho
      exact hfirst
    | succ n =>
      exact hrest n other ho fun k hk => hrunning (k + 1) (Nat.succ_le_succ hk)

/-- A session that is over is not troubled any more. -/
lemma untroubled_of_not_running (h : server.running = false) (emissions : List Emission) :
    Untroubled server emissions := by
  intro n emission _ hrunning
  have hstart : server.running = true := hrunning 0 (Nat.zero_le n)
  rw [h] at hstart
  cases hstart

/-- Processing events comes to a result just if no dispatch on its way ends by a fault. -/
theorem untroubled_iff (server : Server T) (emissions : List Emission) :
    Untroubled server emissions ↔ ¬ (server.run emissions).Faults := by
  induction emissions generalizing server with
  | nil => simp [Untroubled, run, finish, Outcome.Faults]
  | cons emission rest ih =>
    by_cases hr : server.running = true
    · rw [untroubled_cons hr, ih]
      cases hd : (server.dispatch emission.handle emission.signal emission.event).result with
      | error fault =>
        rw [run_cons_of_faults hr _ hd]
        simp [Outcome.Faults, fail, hd]
      | ok count =>
        rw [run_cons_of_result hr _ hd]
        simp [Outcome.Faults, hd, result_map_eq_error_iff]
    · have hn : server.running = false := Bool.eq_false_iff.2 hr
      simp [untroubled_of_not_running hn, run_of_not_running hn, finish, Outcome.Faults]

/-- Processing stops at the first state in which the session is over, if no event is left at the
latest. -/
lemma exists_run_eq (h : Untroubled server emissions) : ∃ n ≤ emissions.length,
    server.run emissions =
      (server.emitAll (emissions.take n)).finish (n, emissions.drop n) ∧
    (∀ k < n, (server.emitAll (emissions.take k)).running = true) ∧
    (n < emissions.length → (server.emitAll (emissions.take n)).running = false) := by
  induction emissions generalizing server with
  | nil => exact ⟨0, Nat.le_refl 0, rfl, fun k hk => absurd hk (Nat.not_lt_zero k), nofun⟩
  | cons emission rest ih =>
    by_cases hr : server.running = true
    · obtain ⟨hfirst, hrest⟩ := (untroubled_cons hr).1 h
      obtain ⟨n, hn, hrun, hrunning, hstopped⟩ := ih hrest
      cases hd : (server.dispatch emission.handle emission.signal emission.event).result with
      | error fault => exact absurd ⟨fault, hd⟩ hfirst
      | ok count =>
        refine ⟨n + 1, Nat.succ_le_succ hn, ?_, fun k hk => ?_, fun hlt => ?_⟩
        · rw [run_cons_of_result hr _ hd, hrun]
          rfl
        · cases k with
          | zero => exact hr
          | succ k => exact hrunning k (Nat.lt_of_succ_lt_succ hk)
        · exact hstopped (Nat.lt_of_succ_lt_succ hlt)
    · have hn : server.running = false := Bool.eq_false_iff.2 hr
      exact ⟨0, Nat.zero_le _, run_of_not_running hn _, fun k hk => absurd hk (Nat.not_lt_zero k),
        fun _ => hn⟩

/-- What is processed of the events of a session that runs is the shortest part that ends it. -/
lemma StopsAfter.eq (s : StopsAfter server emissions n) {m : ℕ} (hr : server.running = true)
    (hrunning : ∀ k < m, (server.emitAll (emissions.take k)).running = true)
    (hstopped : m < emissions.length → (server.emitAll (emissions.take m)).running = false) :
    m = n := by
  have hle : m ≤ n := by
    by_contra hlt
    have hn := hrunning n (Nat.lt_of_not_le hlt)
    rw [s.stopped] at hn
    cases hn
  refine (Nat.lt_or_eq_of_le hle).resolve_left fun hlt => ?_
  have hm : (server.emitAll (emissions.take m)).running = true := by
    rcases m.eq_zero_or_pos with rfl | hpos
    · exact hr
    · exact s.running m hpos hlt
  rw [hstopped (Nat.lt_of_lt_of_le hlt s.le_length)] at hm
  cases hm

/-- **Processing stops when the session is over.** Let no dispatch end by a fault while the session
runs. If it does not run, no event is taken. Otherwise just the events up to the first one after
which it is over are dispatched, in turn, or all if there is no such event; they are counted, and
the others are left. Events in two portions lead to the same state as all at once, the counts add
up, and what is left of the portions makes up what is left of the whole.

**Proof sketch.** Induction on the events: the first one is dispatched, and the others are processed
from the state that it leads to. The part that is processed stops at the first state in which the
session is over, and the shortest part that ends it is the only one of this kind. -/
theorem run_stops_at_termination (h : Untroubled server emissions) :
    (server.running = false → server.run emissions = server.finish (0, emissions)) ∧
    (server.running = true →
      (∀ n, StopsAfter server emissions n → server.run emissions =
        (server.emitAll (emissions.take n)).finish (n, emissions.drop n)) ∧
      ((¬ ∃ n, StopsAfter server emissions n) → server.run emissions =
        (server.emitAll emissions).finish (emissions.length, []))) ∧
    ∀ first second, emissions = first ++ second → ∃ n left m more,
      (server.run first).result = .ok (n, left) ∧
      ((server.run first).server.run second).result = .ok (m, more) ∧
      server.run emissions =
        ((server.run first).server.run second).server.finish (n + m, left ++ more) := by
  refine ⟨fun hn => run_of_not_running hn emissions, fun hr => ?_, ?_⟩
  · obtain ⟨m, hm, hrun, hrunning, hstopped⟩ := exists_run_eq h
    refine ⟨fun n s => ?_, fun hnever => ?_⟩
    · rw [← s.eq hr hrunning hstopped]
      exact hrun
    · have hall : m = emissions.length := by
        refine (Nat.lt_or_eq_of_le hm).resolve_left fun hlt => hnever ⟨m, ?_, hm, hstopped hlt, ?_⟩
        · refine Nat.pos_of_ne_zero fun hzero => ?_
          subst hzero
          have hstart : server.running = false := hstopped hlt
          rw [hr] at hstart
          cases hstart
        · exact fun k _ hk => hrunning k hk
      rw [hrun, hall, List.take_length, List.drop_length]
  · rintro first second rfl
    have hruns := (untroubled_iff server _).1 h
    rw [run_append] at hruns ⊢
    cases hfirst : (server.run first).result with
    | error fault => exact absurd ⟨fault, by rw [hfirst]; rfl⟩ hruns
    | ok done =>
      cases hsecond : ((server.run first).server.run second).result with
      | error fault =>
        refine absurd ⟨fault, ?_⟩ hruns
        simp [hfirst, result_map_eq_error_iff, hsecond]
      | ok more =>
        refine ⟨done.1, done.2, more.1, more.2, rfl, rfl, ?_⟩
        simp [Outcome.map, Except.map, hsecond, finish]

/-- A keyboard is attached, a key is pressed that terminates the session, and an output is
announced. -/
def terminated : List Emission :=
  [⟨⟨0x10⟩, .newInput, .newInput ⟨0x80⟩ .keyboard⟩, ⟨⟨0x80⟩, .key, .key 0 1 .pressed⟩,
    ⟨⟨0x10⟩, .newOutput, .newOutput ⟨0x90⟩⟩]

/-- The output is not looked at any more. -/
theorem run_stops_at_termination_terminated :
    let held := { standard with
      toolkit := standard.toolkit.configure (.modifiers Modifiers.alt) }
    let server := (held.start .willing).server
    server.Untroubled terminated ∧ server.StopsAfter terminated 2 ∧
      server.run terminated =
        (server.emitAll (terminated.take 2)).finish (2, terminated.drop 2) := by
  intro held server
  have hresult : (server.run terminated).result.toOption.isSome = true := by decide +kernel
  have huntroubled : server.Untroubled terminated := by
    rw [untroubled_iff]
    rintro ⟨fault, hf⟩
    rw [hf] at hresult
    cases hresult
  have hrunning : server.running = true ∧ (server.emitAll (terminated.take 1)).running = true ∧
      (server.emitAll (terminated.take 2)).running = false := by decide +kernel
  have hstops : server.StopsAfter terminated 2 := by
    refine ⟨by decide, by decide, hrunning.2.2, fun k hpos hk => ?_⟩
    obtain rfl : k = 1 := by omega
    exact hrunning.2.1
  exact ⟨huntroubled, hstops,
    ((run_stops_at_termination huntroubled).2.1 hrunning.1).1 2 hstops⟩

end Server

end Compositor
