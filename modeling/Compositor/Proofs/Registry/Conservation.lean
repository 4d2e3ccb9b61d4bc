import Compositor.Proofs.Registry.Ledger

set_option autoImplicit false

/-!
# Conservation of native listeners

A native listener that was connected is disconnected at most once, and is never lost: as long as
nobody unwinds, each is either installed or disconnected when no operation waits. Every way out of
a registration has to see to this, and so has every release, while the environment does more of
both from within.

## Main definitions

* `NoUnwinding` — no operation was given up.
* `Live` — a native listener was connected and not disconnected since.

## Main results

* `Run.installed_or_pending_of_live` — a live listener is installed or waits to be disconnected.
* `live_iff_target?` — when no operation waits, the live listeners are those of the index.
* `conservation_of_listeners` — listeners are not disconnected twice or too early, and when no
  operation waits, a pair has one live listener if it has subscribers, and none otherwise.
-/

namespace Compositor.Registry

variable {α : Type}

/-- Whether the environment unwinds. -/
def Happening.isUnwound : Happening α → Bool
  | moved _ _ => false
  | unwound => true

/-- No operation of the history was given up. -/
def NoUnwinding (history : List (Turn α)) : Prop :=
  ∀ turn ∈ history, turn.happening.isUnwound = false

instance (history : List (Turn α)) : Decidable (NoUnwinding history) :=
  inferInstanceAs (Decidable (∀ turn ∈ history, _))

/-- A native listener was connected for a pair and not disconnected since. -/
def Live : List (Turn α) → Token → Handle → Signal → Prop
  | [], _, _, _ => False
  | turn :: history, token, handle, signal =>
    (turn.connection? = some (token, handle, signal) ∨ Live history token handle signal) ∧
      token ∉ turn.disconnections

/-- A listener that was connected and never disconnected is live. -/
lemma live_of_not_mem_disconnections {history : List (Turn α)} {token : Token} {handle : Handle}
    {signal : Signal} (hm : (token, handle, signal) ∈ connections history)
    (hd : token ∉ disconnections history) : Live history token handle signal := by
  induction history with
  | nil => cases hm
  | cons turn history ih =>
    rw [disconnections_cons, List.mem_append, not_or] at hd
    rw [connections_cons, List.mem_append, Option.mem_toList] at hm
    exact ⟨hm.imp_right fun hm => ih hm hd.2, hd.1⟩

/-- Nothing is given up without unwinding. -/
lemma NoUnwinding.abandoned_eq_nil {history : List (Turn α)} (h : NoUnwinding history) :
    abandoned history = [] := by
  refine List.flatMap_eq_nil_iff.2 fun turn ht => ?_
  have hturn := h turn ht
  unfold Turn.abandoned
  cases hh : turn.happening with
  | moved move outcome => rfl
  | unwound => simp [hh, Happening.isUnwound] at hturn

/-- A pair has subscribers exactly if it has a listener. -/
lemma Coherent.subscriberCount_pos_iff {registry : Registry α} (c : Coherent registry)
    {handle : Handle} {signal : Signal} :
    0 < registry.subscriberCount handle signal ↔
      ∃ listener ∈ registry.listenersOf handle, listener.signal = signal := by
  unfold subscriberCount subscribersOf
  constructor
  · intro h
    cases hl : registry.listener? handle signal with
    | none => simp [hl] at h
    | some listener => exact ⟨listener, mem_of_listener? hl⟩
  · rintro ⟨listener, hl, rfl⟩
    rw [listener?_of_mem (c.signals_nodup handle) hl]
    exact List.length_pos_iff.2 (c.subscribers_ne_nil hl)

/-- A live listener is installed or waits to be disconnected, whether or not tokens are fresh.

**Proof sketch.** Induction on the run. The listener that a turn brings is installed or handed back,
and so is one that was installed before (`Change.installed_or_mem_released`). What was handed back
waits until it is disconnected (`exists_change`). -/
lemma Run.installed_or_pending_of_live {history : List (Turn α)} {process : Process α}
    (h : Run .initial history process) (hu : NoUnwinding history) {token : Token} {handle : Handle}
    {signal : Signal} (hl : Live history token handle signal) :
    process.registry.Installed token handle signal ∨ token ∈ pending process.frames := by
  induction h with
  | nil => cases hl
  | @cons history before after happening hr ht ih =>
    rw [NoUnwinding, List.forall_mem_cons] at hu
    obtain ⟨hlive, hd⟩ := hl
    cases happening with
    | unwound => cases hu.1
    | moved move outcome =>
      obtain ⟨released, hchange, hperm⟩ := exists_change ht
      -- what is handed back waits, since it is not disconnected in this turn
      have hpending : token ∈ released ++ pending before.frames → token ∈ pending after.frames :=
        fun hm => (List.mem_append.1 (hperm.mem_iff.1 hm)).resolve_right hd
      have hreleased : (before.registry.Installed token handle signal ∨
          move = .connected token ∧
            ∃ callback frames, before.frames = .connecting handle signal callback :: frames) →
          after.registry.Installed token handle signal ∨ token ∈ pending after.frames := by
        intro hi
        refine (hchange.installed_or_mem_released hr.coherent hi).imp_right fun hm => ?_
        exact hpending (List.mem_append_left _ hm)
      rcases hlive with hc | hl
      · obtain ⟨⟨_, hmove⟩, hframes⟩ := Turn.connection?_eq_some hc
        cases hmove
        exact hreleased (.inr ⟨rfl, hframes⟩)
      · rcases ih hu.2 hl with hi | hm
        · exact hreleased (.inl hi)
        · exact .inr (hpending (List.mem_append_right _ hm))

namespace Balanced

variable {history : List (Turn α)} {process : Process α}

/-- Fresh tokens are disconnected at most once. -/
lemma disconnections_nodup (b : Balanced history process) (hf : FreshTokens history) :
    (disconnections history).Nodup := by
  refine List.nodup_iff_count_le_one.2 fun token => ?_
  have hconnected := List.nodup_iff_count_le_one.1 hf token
  have hcount := b.count_connections token
  omega

/-- Only what was connected is disconnected. -/
lemma exists_mem_connections (b : Balanced history process) {token : Token}
    (h : token ∈ disconnections history) : ∃ pair, (token, pair) ∈ connections history := by
  have hpos := List.count_pos_iff.2 h
  have hcount := b.count_connections token
  have hconnected : token ∈ (connections history).map Prod.fst :=
    List.count_pos_iff.1 (by omega)
  obtain ⟨⟨_, pair⟩, hm, rfl⟩ := List.mem_map.1 hconnected
  exact ⟨pair, hm⟩

end Balanced

section Rest

variable {history : List (Turn α)} {process : Process α} (h : Run .initial history process)
  (hf : FreshTokens history) (hu : NoUnwinding history) (hw : process.frames = [])

include h hf hu hw

/-- When no operation waits, a connected listener is either installed or disconnected. -/
lemma count_connections_of_rest (token : Token) :
    ((connections history).map Prod.fst).count token =
      process.registry.installs token + (disconnections history).count token := by
  have hcount := (h.balanced hf).count_connections token
  rw [hw, hu.abandoned_eq_nil, pending_nil, List.count_nil] at hcount
  exact hcount

/-- When no operation waits, the live listeners are those of the index.

**Proof sketch.** A live listener is installed, since none waits to be disconnected. A listener of
the index was connected for its pair, and as its token is fresh it was not disconnected. -/
lemma live_iff_target? {token : Token} {handle : Handle} {signal : Signal} :
    Live history token handle signal ↔
      process.registry.target? token = some (handle, signal) := by
  constructor
  · intro hl
    rw [(h.balanced hf).indexed]
    rcases h.installed_or_pending_of_live hu hl with hi | hm
    · exact hi
    · rw [hw] at hm
      cases hm
  · intro ht
    refine live_of_not_mem_disconnections (h.mem_connections ht) fun hd => ?_
    have hdisconnected := List.count_pos_iff.2 hd
    have hone := List.nodup_iff_count_le_one.1 hf token
    have hcount := count_connections_of_rest h hf hu hw token
    rw [installs, ht, Option.isSome_some, if_pos rfl] at hcount
    omega

/-- When no operation waits, a pair has a live listener exactly if it has a listener. -/
lemma exists_live_iff {handle : Handle} {signal : Signal} :
    (∃ token, Live history token handle signal) ↔
      0 < process.registry.subscriberCount handle signal := by
  rw [h.coherent.subscriberCount_pos_iff]
  constructor
  · rintro ⟨token, hl⟩
    rw [live_iff_target? h hf hu hw, (h.balanced hf).indexed] at hl
    obtain ⟨listener, hm, -, hs⟩ := hl
    exact ⟨listener, hm, hs⟩
  · rintro ⟨listener, hm, rfl⟩
    have htarget := (h.balanced hf).indexed.target?_of_mem hm
    exact ⟨listener.token, (live_iff_target? h hf hu hw).2 htarget⟩

/-- When no operation waits, a pair has at most one live listener. -/
lemma live_unique {token other : Token} {handle : Handle} {signal : Signal}
    (hl : Live history token handle signal) (hl' : Live history other handle signal) :
    token = other := by
  rw [live_iff_target? h hf hu hw, (h.balanced hf).indexed] at hl hl'
  obtain ⟨listener, hm, rfl, hs⟩ := hl
  obtain ⟨listener', hm', rfl, hs'⟩ := hl'
  rw [List.inj_on_of_nodup_map (h.coherent.signals_nodup handle) hm hm' (hs.trans hs'.symm)]

end Rest

/-- **Native listeners are conserved.** In every run with fresh tokens in which nobody unwinds, no
listener is disconnected twice or before it was connected; and when no operation waits, the live
listeners are those of the index, one for each pair that has subscribers, and none when the
registry is shut down.

**Proof sketch.** Every connected listener has one place (`Run.balanced`): it is installed, waits,
is disconnected or was given up. With fresh tokens this leaves room for one disconnection, after the
connection. When no operation waits and none was given up, a listener that is live has to be
installed, and coherent tables have one listener for each pair with subscribers and none after the
shutdown. -/
theorem conservation_of_listeners {history : List (Turn α)} {process : Process α}
    (h : Run .initial history process) (hf : FreshTokens history) (hu : NoUnwinding history) :
    (disconnections history).Nodup ∧
    (∀ earlier, earlier <:+ history → ∀ token ∈ disconnections earlier,
      ∃ pair, (token, pair) ∈ connections earlier) ∧
    (process.frames = [] →
      (∀ token handle signal, Live history token handle signal ↔
        process.registry.target? token = some (handle, signal)) ∧
      (∀ handle signal token other, Live history token handle signal →
        Live history other handle signal → token = other) ∧
      (∀ handle signal, (∃ token, Live history token handle signal) ↔
        0 < process.registry.subscriberCount handle signal) ∧
      (process.registry.isShutDown = true →
        ∀ token handle signal, ¬ Live history token handle signal)) := by
  refine ⟨(h.balanced hf).disconnections_nodup hf, ?_, fun hw => ⟨?_, ?_, ?_, ?_⟩⟩
  · intro earlier hs token ht
    obtain ⟨middle, hmiddle⟩ := h.exists_of_suffix hs
    exact (hmiddle.balanced (hf.of_suffix hs)).exists_mem_connections ht
  · exact fun token handle signal => live_iff_target? h hf hu hw
  · exact fun handle signal token other => live_unique h hf hu hw
  · exact fun handle signal => exists_live_iff h hf hu hw
  · intro hs token handle signal hl
    rw [live_iff_target? h hf hu hw, target?, (h.coherent.tables_of_isShutDown hs).2.1] at hl
    simp at hl

/-- The listener of a handle that is used again is live. -/
theorem conservation_of_listeners_reuse :
    let run := play .initial (reuse ⟨16⟩)
    FreshTokens run.1 ∧ NoUnwinding run.1 ∧ run.2.frames = [] ∧ (disconnections run.1).Nodup ∧
      Live run.1 ⟨2⟩ ⟨16⟩ .frame ∧ 0 < run.2.registry.subscriberCount ⟨16⟩ .frame := by
  intro run
  have hf : FreshTokens run.1 := by decide
  have hu : NoUnwinding run.1 := by decide
  have hw : run.2.frames = [] := rfl
  obtain ⟨hnodup, -, hrest⟩ := conservation_of_listeners (run_play .initial (reuse ⟨16⟩)) hf hu
  obtain ⟨htarget, -, hcount, -⟩ := hrest hw
  have hlive : Live run.1 ⟨2⟩ ⟨16⟩ .frame := (htarget _ _ _).2 (by decide)
  exact ⟨hf, hu, hw, hnodup, hlive, (hcount _ _).1 ⟨_, hlive⟩⟩

end Compositor.Registry
