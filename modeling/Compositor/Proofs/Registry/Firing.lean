import Compositor.Proofs.Registry.Ledger

set_option autoImplicit false

/-!
# Firing native listeners

The native side fires a listener by its token. If the listener is installed this is a dispatch of
its pair. If it is not, nothing may happen: its object may be gone. The native side may fire
whenever it is its turn, also while it is disconnecting the very listener, so the index has to be
right at all these times.

## Main definitions

* `Process.Deaf` — firing a token runs no callback and changes nothing.

## Main results

* `Balanced.target?_eq_none` — a token with another place is not in the index.
* `dispatchNative_eq_dispatch_or_deaf` — an installed listener stands for its pair, and every other
  token is deaf; one that was disconnected stays so.
-/

namespace Compositor.Registry

variable {α : Type}

/-- Firing a token runs no callback, counts none and changes nothing. -/
def Process.Deaf (process : Process α) (token : Token) : Prop :=
  ∀ event, process.call (.dispatchNative token event) = (process, .answered (.count 0))

/-- A token that was not connected, waits to be disconnected, was disconnected or was given up. -/
def Unused (history : List (Turn α)) (process : Process α) (token : Token) : Prop :=
  token ∉ (connections history).map Prod.fst ∨ token ∈ pending process.frames ∨
    token ∈ disconnections history ∨ token ∈ abandoned history

namespace Process

variable {process : Process α} {token : Token}

/-- Firing the listener of a pair dispatches the signal of the pair. -/
lemma dispatchNative_of_target? {handle : Handle} {signal : Signal}
    (h : process.registry.target? token = some (handle, signal)) (event : Event) :
    process.call (.dispatchNative token event) = process.call (.dispatch handle signal event) := by
  simp only [call, h]

/-- A call is carried out in one way, unless it is a shutdown. -/
lemma Turns.call_eq {before after : Process α} {operation : Operation α} {outcome : Outcome α}
    (h : before.Turns (.moved (.call operation) outcome) after) (hs : operation ≠ .shutdown) :
    before.call operation = (after, outcome) := by
  cases h with
  | shutdown _ _ => exact absurd rfl hs
  | step hstep => exact Option.some.inj hstep

/-- A token outside the index is deaf. -/
lemma deaf_of_target? (h : process.registry.target? token = none) : process.Deaf token := by
  intro event
  simp only [call, h]

end Process

/-- A listener has one place, so one with another place is not in the index. -/
lemma Balanced.target?_eq_none {history : List (Turn α)} {process : Process α}
    (b : Balanced history process) (hf : FreshTokens history) {token : Token}
    (hu : Unused history process token) : process.registry.target? token = none := by
  have hone := List.nodup_iff_count_le_one.1 hf token
  have hcount := b.count_connections token
  cases ht : process.registry.target? token with
  | none => rfl
  | some pair =>
    have hinstalls : process.registry.installs token = 1 := by simp [installs, ht]
    rcases hu with hn | hm | hm | hm
    · rw [List.count_eq_zero_of_not_mem hn] at hcount
      omega
    all_goals
      have hpos := List.count_pos_iff.2 hm
      omega

namespace Run

variable {history : List (Turn α)} {process : Process α} {token : Token}

/-- What was disconnected is not in the index, and as long as tokens are fresh it does not come
back. -/
lemma deaf_of_mem_disconnections (h : Run .initial history process) {later : List (Turn α)}
    {last : Process α} (hl : Run process later last)
    (hf' : FreshTokens (later ++ history)) (hd : token ∈ disconnections history) :
    last.Deaf token := by
  have hlater : token ∈ disconnections (later ++ history) := by
    rw [disconnections, List.flatMap_append]
    exact List.mem_append_right _ hd
  have hunused : Unused (later ++ history) last token := .inr (.inr (.inl hlater))
  exact Process.deaf_of_target? (((h.append hl).balanced hf').target?_eq_none hf' hunused)

end Run

/-- **No callback runs through a listener that is not installed.** At every turn of the environment
in a run with fresh tokens, firing the listener that is installed for a pair is the same as
dispatching the pair's signal, and every other token is deaf: one that was never connected, one that
was connected but not installed, and one that has to be or was disconnected. From the moment it is
handed over to be disconnected, a token is deaf for good, so that no turn that fires it does
anything.

**Proof sketch.** The index has the tokens of the installed listeners (`Run.balanced`), and a token
has one place only (`Balanced.target?_eq_none`). What was disconnected stays disconnected when the
run goes on. -/
theorem dispatchNative_eq_dispatch_or_deaf {history : List (Turn α)} {process : Process α}
    (h : Run .initial history process) (hf : FreshTokens history) (token : Token) :
    (∀ handle signal, process.registry.Installed token handle signal → ∀ event,
      process.call (.dispatchNative token event) = process.call (.dispatch handle signal event)) ∧
    ((∀ handle signal, ¬ process.registry.Installed token handle signal) → process.Deaf token) ∧
    (Unused history process token →
      ∀ handle signal, ¬ process.registry.Installed token handle signal) ∧
    (token ∈ disconnections history → ∀ later last, Run process later last →
      FreshTokens (later ++ history) → last.Deaf token ∧
        ∀ turn ∈ later, ∀ event outcome,
          turn.happening = .moved (.call (.dispatchNative token event)) outcome →
            turn.after = turn.before ∧ outcome = .answered (.count 0)) := by
  have b := h.balanced hf
  refine ⟨?_, ?_, ?_, ?_⟩
  · intro handle signal hi event
    exact Process.dispatchNative_of_target? ((b.indexed _ _ _).2 hi) event
  · intro hn
    refine Process.deaf_of_target? ?_
    cases ht : process.registry.target? token with
    | none => rfl
    | some pair => exact absurd ((b.indexed _ _ _).1 ht) (hn pair.1 pair.2)
  · intro hu handle signal hi
    rw [← b.indexed, b.target?_eq_none hf hu] at hi
    cases hi
  · intro hd later last hl hf'
    refine ⟨h.deaf_of_mem_disconnections hl hf' hd, fun turn hm event outcome hturn => ?_⟩
    obtain ⟨earlier, hs, hbefore, hturns⟩ := hl.exists_turns_of_mem hm
    have hsuffix : earlier ++ history <:+ later ++ history := by
      obtain ⟨newer, rfl⟩ := (List.suffix_cons turn earlier).trans hs
      exact ⟨newer, (List.append_assoc _ _ _).symm⟩
    have hdeaf := h.deaf_of_mem_disconnections hbefore (hf'.of_suffix hsuffix) hd event
    rw [hturn] at hturns
    have hcall := hturns.call_eq nofun
    rw [hdeaf, Prod.mk.injEq] at hcall
    exact ⟨hcall.1.symm, hcall.2.symm⟩

/-- A listener is fired while it is being disconnected, and when it is not known any more. -/
theorem dispatchNative_eq_dispatch_or_deaf_releasing :
    let run := play .initial
      ([.call (.register ⟨16⟩ .frame ()), .connected ⟨1⟩, .call (.unregisterAll ⟨16⟩)] :
        List (Move Unit))
    let later := play run.2 [.call (.dispatchNative ⟨1⟩ .empty), .finished]
    FreshTokens run.1 ∧ run.2.frames.length = 1 ∧ run.2.Deaf ⟨1⟩ ∧ later.2.Deaf ⟨1⟩ := by
  intro run later
  have hf : FreshTokens run.1 := by decide
  have hd : (⟨1⟩ : Token) ∈ disconnections run.1 := by decide
  obtain ⟨-, -, -, hdeaf⟩ := dispatchNative_eq_dispatch_or_deaf (run_play .initial _) hf ⟨1⟩
  exact ⟨hf, rfl, (hdeaf hd [] _ .nil hf).1, (hdeaf hd later.1 _ (run_play run.2 _) (by decide)).1⟩

end Compositor.Registry
