import Compositor.Proofs.Registry.Conservation
import Compositor.Proofs.Registry.Retirement
import Mathlib.Data.List.TakeWhile

set_option autoImplicit false

/-!
# Listeners and incarnations

A handle is the address of an object, and the address of a destroyed object may be announced again
for a new one. The listeners of the old object are released when it is destroyed, but a
registration that waits for its native listener looks at the handle only afterwards, and does not
see that it was retired and announced again in between. Then the listener that it installs was
connected to the old object.

## Main definitions

* `retiredAt` — when a handle was last retired.
* `insideConnect`, `connectedAt` — the turns while a native listener was being connected, and when
  this began.

## Main results

* `Run.exists_connect` — what the two describe is the call that connected the listener.
* `connected_after_retirement_iff` — an installed listener was connected after the last retirement
  of its handle exactly if the handle was not retired while it was being connected.
* `exists_connected_before_retirement` — this can happen.
-/

namespace Compositor.Registry

variable {α : Type}

/-! ## Times

A time is a number of turns that have happened. -/

/-- When a handle was last retired; zero if it never was. -/
def retiredAt (history : List (Turn α)) (handle : Handle) : ℕ :=
  (history.dropWhile fun turn => decide (handle ∉ turn.retired)).length

/-- Whether a turn brings the native listener of a given name. -/
def Turn.brings (turn : Turn α) (token : Token) : Bool :=
  turn.connection?.any fun connection => decide (connection.1 = token)

/-- The turns since a native listener was connected. -/
def sinceConnected (history : List (Turn α)) (token : Token) : List (Turn α) :=
  history.takeWhile fun turn => !turn.brings token

/-- The turn that brought a native listener, and those before it. -/
def untilConnected (history : List (Turn α)) (token : Token) : List (Turn α) :=
  history.dropWhile fun turn => !turn.brings token

/-- Whether a turn finds at least as many operations waiting as another turn. -/
def Turn.isWithin (turn answer : Turn α) : Bool :=
  decide (answer.before.frames.length ≤ turn.before.frames.length)

/-- The turns while a native listener was being connected: those, right before the turn that brought
it, which found its registration waiting. -/
def insideConnect (history : List (Turn α)) (token : Token) : List (Turn α) :=
  match untilConnected history token with
  | [] => []
  | answer :: earlier => earlier.takeWhile fun turn => turn.isWithin answer

/-- When the environment was asked to connect a native listener; what happened up to then happened
before the listener was connected. -/
def connectedAt (history : List (Turn α)) (token : Token) : ℕ :=
  match untilConnected history token with
  | [] => 0
  | answer :: earlier => (earlier.dropWhile fun turn => turn.isWithin answer).length

/-- A list is dropped down to its end exactly if all before the end is dropped. -/
lemma length_dropWhile_append_le_iff {β : Type} (p : β → Bool) (xs ys : List β) :
    ((xs ++ ys).dropWhile p).length ≤ ys.length ↔ ∀ x ∈ xs, p x = true := by
  induction xs with
  | nil => simpa using (List.dropWhile_suffix p).length_le
  | cons x xs ih =>
    rw [List.cons_append, List.forall_mem_cons]
    cases hx : p x with
    | true => simp [hx, ih]
    | false =>
      rw [List.dropWhile_cons_of_neg (by simp [hx]), List.length_cons, List.length_append]
      simp only [Bool.false_eq_true, false_and, iff_false]
      omega

/-! ## The turn that brought a listener -/

/-- A listener that was connected was brought by some turn, for its pair. -/
lemma exists_answer {history : List (Turn α)} (hf : FreshTokens history) {token : Token}
    {handle : Handle} {signal : Signal} (hm : (token, handle, signal) ∈ connections history) :
    ∃ answer before, untilConnected history token = answer :: before ∧
      answer.connection? = some (token, handle, signal) := by
  cases hu : untilConnected history token with
  | nil =>
    obtain ⟨turn, hturn, hc⟩ := List.mem_filterMap.1 hm
    have hnot := List.dropWhile_eq_nil_iff.1 hu turn hturn
    simp [Turn.brings, hc] at hnot
  | cons answer before =>
    refine ⟨answer, before, rfl, ?_⟩
    have hmem : answer ∈ history := by
      refine List.dropWhile_subset (fun turn => !turn.brings token) ?_
      rw [← untilConnected, hu]
      exact List.mem_cons_self
    have hbrings := List.head?_dropWhile_not (fun turn : Turn α => !turn.brings token) history
    rw [← untilConnected, hu] at hbrings
    cases hc : answer.connection? with
    | none => simp [Turn.brings, hc] at hbrings
    | some connection =>
      obtain ⟨other, pair⟩ := connection
      have hother : other = token := by simpa [Turn.brings, hc] using hbrings
      subst hother
      rw [hf.pair_unique (List.mem_filterMap.2 ⟨answer, hmem, hc⟩) hm]

/-! ## The call that connects -/

namespace Process

/-- Serving callbacks asks for no native listener. -/
lemma serve_ne_connect (registry : Registry α) (frames : List (Frame α)) (event : Event) (total : ℕ)
    (callbacks : List (Callback α)) (handle : Handle) (signal : Signal) :
    (serve registry frames event total callbacks).2 ≠ .demands (.connect handle signal) := by
  induction callbacks generalizing registry with
  | nil =>
    intro h
    cases h
  | cons callback rest ih =>
    cases callback with
    | run action =>
      intro h
      cases h
    | retire other =>
      rw [serve]
      split
      · exact ih _
      · intro h
        cases h

/-- Disconnecting tokens asks for no native listener. -/
lemma release_ne_connect (registry : Registry α) (frames : List (Frame α)) (sequel : Sequel α)
    (tokens : List Token) (handle : Handle) (signal : Signal) :
    (release registry frames sequel tokens).2 ≠ .demands (.connect handle signal) := by
  cases tokens with
  | cons token tokens =>
    intro h
    cases h
  | nil =>
    cases sequel with
    | reply reply =>
      intro h
      cases h
    | serve rest event total => exact serve_ne_connect _ _ _ _ _ _ _

/-- A registration asks for one native listener only. -/
lemma attempt_ne_connect (registry : Registry α) (frames : List (Frame α)) (place : Handle)
    (kind : Signal) (callback : Callback α) (token : Token) (handle : Handle) (signal : Signal) :
    (attempt registry frames place kind callback (some token)).2 ≠
      .demands (.connect handle signal) := by
  unfold attempt
  split
  · exact release_ne_connect _ _ _ _ _ _
  · split
    · exact release_ne_connect _ _ _ _ _ _
    · intro h
      cases h

/-- The environment is asked for a native listener when an operation is called. -/
lemma Turns.exists_call_of_connect {before after : Process α} {move : Move α} {handle : Handle}
    {signal : Signal}
    (h : before.Turns (.moved move (.demands (.connect handle signal))) after) :
    ∃ operation, move = .call operation := by
  cases h with
  | shutdown _ _ => exact ⟨_, rfl⟩
  | step hs =>
    rcases step_eq_some hs with ⟨operation, rfl, -⟩ |
      ⟨token, place, kind, callback, frames, rfl, -, he⟩ | ⟨rest, sequel, frames, rfl, -, he⟩ |
      ⟨rest, event, total, frames, rfl, -, he⟩
    · exact ⟨operation, rfl⟩
    · exact absurd (congrArg Prod.snd he) (attempt_ne_connect _ _ _ _ _ _ _ _)
    · exact absurd (congrArg Prod.snd he) (release_ne_connect _ _ _ _ _ _)
    · exact absurd (congrArg Prod.snd he) (serve_ne_connect _ _ _ _ _ _ _)

end Process

/-- The native listener of a pair was asked for in a turn that found the given operations waiting,
and every turn since then found more of them waiting. -/
def Asked (history : List (Turn α)) (base : List (Frame α)) (handle : Handle) (signal : Signal) :
    Prop :=
  ∃ inside demand earlier, history = inside ++ demand :: earlier ∧
    (∃ operation, demand.happening =
      .moved (.call operation) (.demands (.connect handle signal))) ∧
    demand.before.frames = base ∧
    ∀ turn ∈ inside, base.length < turn.before.frames.length

/-- A turn that finds more operations waiting changes nothing about what was asked for. -/
lemma Asked.cons {history : List (Turn α)} {base : List (Frame α)} {handle : Handle}
    {signal : Signal} (h : Asked history base handle signal) {turn : Turn α}
    (ht : base.length < turn.before.frames.length) :
    Asked (turn :: history) base handle signal := by
  obtain ⟨inside, demand, earlier, rfl, hdemand, hbase, hdeep⟩ := h
  exact ⟨turn :: inside, demand, earlier, rfl, hdemand, hbase, List.forall_mem_cons.2 ⟨ht, hdeep⟩⟩

namespace Run

variable {history : List (Turn α)} {process : Process α} {handle : Handle} {signal : Signal}

/-- A registration that waits for its native listener has waited since the turn that asked for the
listener.

**Proof sketch.** Induction on the run. A registration starts to wait in a turn that asks for a
listener, which is a call. From then on no turn touches its frame, since it is not the newest one or
an operation is called on top of it. -/
lemma asked (h : Run .initial history process) {callback : Callback α} (inner : List (Frame α))
    {base : List (Frame α)}
    (hf : process.frames = inner ++ .connecting handle signal callback :: base) :
    Asked history base handle signal := by
  induction h generalizing inner with
  | nil => simp [Process.initial] at hf
  | @cons history before after happening hr ht ih =>
    -- a turn that finds the registration waiting comes after the one that asked for the listener
    have hstill : ∀ inner, before.frames = inner ++ .connecting handle signal callback :: base →
        Asked (⟨before, happening, after⟩ :: history) base handle signal := by
      intro inner hb
      refine (ih inner hb).cons ?_
      simp only [hb, List.length_append, List.length_cons]
      omega
    cases happening with
    | unwound =>
      cases ht with
      | @unwind frame frames hb =>
        refine hstill (frame :: inner) ?_
        rw [hb, List.cons_append, ← hf]
    | moved move outcome =>
      have hstacks := ht.stacks
      rw [hf] at hstacks
      cases outcome with
      | answered reply =>
        obtain ⟨inner, hb⟩ := Move.exists_inner_of_base hstacks.symm
        exact hstill inner hb
      | demands demand =>
        obtain ⟨frame, hnew, hawaits⟩ := hstacks
        cases inner with
        | cons newest inner =>
          obtain ⟨inner, hb⟩ := Move.exists_inner_of_base (List.cons.inj hnew).2.symm
          exact hstill inner hb
        | nil =>
          obtain ⟨rfl, rfl⟩ := List.cons.inj hnew
          cases demand with
          | disconnect token => cases hawaits
          | run action event => cases hawaits
          | connect other kind =>
            obtain ⟨rfl, rfl⟩ := hawaits
            obtain ⟨operation, rfl⟩ := ht.exists_call_of_connect
            exact ⟨[], _, history, rfl, ⟨operation, rfl⟩, rfl, List.forall_mem_nil _⟩

/-- **An installed listener was connected in the call that the two times are about.** The history
tells when the environment was asked to connect it, and when it did.

**Proof sketch.** The turn that brought the listener found its registration waiting, so it was
asked for in an earlier turn (`Run.asked`), and the turns since then found more operations
waiting than that one. -/
theorem exists_connect (h : Run .initial history process) (hf : FreshTokens history)
    {token : Token} (ht : process.registry.target? token = some (handle, signal)) :
    ∃ answer demand earlier,
      history = sinceConnected history token ++ answer :: (insideConnect history token ++
        demand :: earlier) ∧
      answer.connection? = some (token, handle, signal) ∧
      (∃ operation, demand.happening =
        .moved (.call operation) (.demands (.connect handle signal))) ∧
      answer.before.frames.tail = demand.before.frames ∧
      connectedAt history token = (demand :: earlier).length := by
  obtain ⟨answer, before, hu, hanswer⟩ := exists_answer hf (h.mem_connections ht)
  have hsuffix : answer :: before <:+ history := hu ▸ List.dropWhile_suffix _
  obtain ⟨-, callback, frames, hframes⟩ := Turn.connection?_eq_some hanswer
  obtain ⟨inside, demand, earlier, rfl, hdemand, hbase, hdeep⟩ :=
    (h.before_of_suffix hsuffix).asked [] hframes
  have hwithin : ∀ turn ∈ inside, turn.isWithin answer = true := by
    intro turn hturn
    have hlt := hdeep turn hturn
    simp only [Turn.isWithin, hframes, List.length_cons, decide_eq_true_eq]
    omega
  have hdemand' : demand.isWithin answer = false := by
    simp [Turn.isWithin, hframes, hbase]
  have hinside : insideConnect history token = inside := by
    rw [insideConnect, hu]
    simp only
    rw [List.takeWhile_append_of_pos hwithin, List.takeWhile_cons_of_neg (by simp [hdemand']),
      List.append_nil]
  have hconnected : connectedAt history token = (demand :: earlier).length := by
    rw [connectedAt, hu]
    simp only
    rw [List.dropWhile_append_of_pos hwithin, List.dropWhile_cons_of_neg (by simp [hdemand'])]
  refine ⟨answer, demand, earlier, ?_, hanswer, hdemand, ?_, hconnected⟩
  · rw [hinside, ← hu]
    exact List.takeWhile_append_dropWhile.symm
  · rw [hframes, hbase, List.tail_cons]

/-- A handle with an installed listener was not retired since the listener was connected.

**Proof sketch.** Induction on the run. The last turn did not retire the handle, or it would have no
listeners; and unless this turn brought the listener, it was installed before. -/
lemma not_mem_retired_of_mem_sinceConnected (h : Run .initial history process)
    (hf : FreshTokens history) {token : Token}
    (ht : process.registry.target? token = some (handle, signal)) {answer : Turn α}
    {before : List (Turn α)} (hu : untilConnected history token = answer :: before) :
    ∀ turn ∈ sinceConnected history token ++ [answer], handle ∉ turn.retired := by
  induction h with
  | nil => cases hu
  | @cons earlier start finish happening hr hturn ih =>
    have hlast : handle ∉ (Turn.mk start happening finish).retired := by
      intro hretired
      obtain ⟨listener, hm, -, -⟩ := (((hr.cons hturn).balanced hf).indexed _ _ _).1 ht
      rw [hturn.listenersOf_of_mem_retired hretired] at hm
      cases hm
    cases hb : (Turn.mk start happening finish).brings token with
    | true =>
      rw [untilConnected, List.dropWhile_cons_of_neg (by simp [hb])] at hu
      cases hu
      rw [sinceConnected, List.takeWhile_cons_of_neg (by simp [hb]), List.nil_append]
      simpa using hlast
    | false =>
      have hbefore : start.registry.target? token = some (handle, signal) := by
        cases happening with
        | unwound =>
          cases hturn
          exact ht
        | moved move outcome =>
          obtain ⟨released, hchange, -⟩ := exists_change hturn
          rcases hchange.target? hr.coherent ht with hbefore | ⟨rfl, callback, frames, hframes⟩
          · exact hbefore
          · simp [Turn.brings, Turn.connection?, hframes] at hb
      rw [untilConnected, List.dropWhile_cons_of_pos (by simp [hb])] at hu
      rw [sinceConnected, List.takeWhile_cons_of_pos (by simp [hb]), List.cons_append,
        List.forall_mem_cons]
      exact ⟨hlast, ih (hf.of_suffix (List.suffix_cons _ _)) hbefore hu⟩

end Run

/-- **When a listener outlives its object.** An installed listener was connected after the last
retirement of its handle exactly if the handle was not retired while it was being connected.

**Proof sketch.** The handle was not retired since the listener was connected, so its last
retirement came before the call that connected the listener, unless it came during the call. -/
theorem connected_after_retirement_iff {history : List (Turn α)} {process : Process α}
    (h : Run .initial history process) (hf : FreshTokens history) {token : Token} {handle : Handle}
    {signal : Signal} (ht : process.registry.target? token = some (handle, signal)) :
    retiredAt history handle ≤ connectedAt history token ↔
      ∀ turn ∈ insideConnect history token, handle ∉ turn.retired := by
  obtain ⟨answer, demand, earlier, hhistory, hanswer, -, -, hconnected⟩ := h.exists_connect hf ht
  have hu : untilConnected history token =
      answer :: (insideConnect history token ++ demand :: earlier) := by
    have happend : sinceConnected history token ++ untilConnected history token =
        sinceConnected history token ++
          answer :: (insideConnect history token ++ demand :: earlier) := by
      rw [← hhistory]
      exact List.takeWhile_append_dropWhile
    exact List.append_cancel_left happend
  have hsince := h.not_mem_retired_of_mem_sinceConnected hf ht hu
  have hsplit : history = (sinceConnected history token ++ [answer] ++
      insideConnect history token) ++ demand :: earlier := by
    rw [List.append_assoc, List.append_assoc, List.singleton_append]
    exact hhistory
  rw [retiredAt, hconnected]
  conv_lhs => rw [hsplit]
  rw [length_dropWhile_append_le_iff, List.forall_mem_append]
  simp only [decide_eq_true_eq]
  exact ⟨fun hall => hall.2, fun hinside => ⟨hsince, hinside⟩⟩

/-- Moves in which a handle is announced again before a listener is connected for it. -/
def announced (handle : Handle) : List (Move Unit) :=
  [.call (.track handle .destroy), .connected ⟨1⟩, .call (.dispatch handle .destroy .empty),
    .finished, .call (.revive handle), .call (.register handle .frame ()), .connected ⟨2⟩]

/-- Then the listener was connected after the retirement. -/
theorem connected_after_retirement_announced :
    let run := play .initial (announced ⟨16⟩)
    FreshTokens run.1 ∧ run.2.registry.target? ⟨2⟩ = some (⟨16⟩, .frame) ∧
      retiredAt run.1 ⟨16⟩ ≤ connectedAt run.1 ⟨2⟩ := by
  intro run
  have hf : FreshTokens run.1 := by decide
  have ht : run.2.registry.target? ⟨2⟩ = some (⟨16⟩, .frame) := by decide
  refine ⟨hf, ht, ?_⟩
  exact (connected_after_retirement_iff (run_play .initial (announced ⟨16⟩)) hf ht).2 (by decide)

/-- **A listener can outlive its object**: no operation waits, nobody unwound, and a listener is
installed that was connected before its handle was last retired. -/
theorem exists_connected_before_retirement :
    ∃ (history : List (Turn Unit)) (process : Process Unit) (token : Token) (handle : Handle)
      (signal : Signal),
      Run .initial history process ∧ FreshTokens history ∧ NoUnwinding history ∧
        process.frames = [] ∧ process.registry.target? token = some (handle, signal) ∧
        connectedAt history token < retiredAt history handle :=
  ⟨_, _, ⟨2⟩, ⟨16⟩, .frame, run_play .initial (reuse ⟨16⟩), by decide, by decide, rfl, by decide,
    by decide⟩

end Compositor.Registry
