import Compositor.Proofs.Registry.Change
import Compositor.Proofs.Registry.Indexed

set_option autoImplicit false

/-!
# The ledger of the native listeners

The history of a run tells which native listeners the environment connected and which it was asked
to disconnect. The ledger compares this with what the registry knows: a listener that was connected
is either installed, or waits to be disconnected, or is disconnected, or was given up when the
environment unwound, and it is so exactly once.

## Main definitions

* `connections`, `disconnections`, `abandoned` — what a history says of native listeners.
* `FreshTokens` — no token was chosen twice.
* `Balanced` — the ledger agrees with the registry.

## Main results

* `Run.coherent` — the tables are coherent in every run.
* `Run.mem_connections` — a listener is installed for the pair that it was connected for.
* `Run.balanced` — the ledger is balanced in every run with fresh tokens.
-/

namespace Compositor.Registry

variable {α : Type}

/-! ## Entries -/

/-- The native listener that a turn brings, with the pair that it was connected for. -/
def Turn.connection? (turn : Turn α) : Option (Token × Handle × Signal) :=
  match turn.before.frames, turn.happening with
  | .connecting handle signal _ :: _, .moved (.connected token) _ => some (token, handle, signal)
  | _, _ => none

/-- The native listeners that were connected, with the pairs they were connected for. -/
def connections (history : List (Turn α)) : List (Token × Handle × Signal) :=
  history.filterMap Turn.connection?

/-- The native listener that a turn has disconnected, if it does. -/
def Turn.disconnections (turn : Turn α) : List Token :=
  match turn.happening with
  | .moved _ outcome => outcome.disconnections
  | .unwound => []

/-- The native listeners that were disconnected. -/
def disconnections (history : List (Turn α)) : List Token :=
  history.flatMap Turn.disconnections

/-- The native listeners that a turn gives up, which is never to disconnect them. -/
def Turn.abandoned (turn : Turn α) : List Token :=
  match turn.happening with
  | .moved _ _ => []
  | .unwound => pending (turn.before.frames.take 1)

/-- The native listeners that were given up. -/
def abandoned (history : List (Turn α)) : List Token :=
  history.flatMap Turn.abandoned

/-- No token was chosen for two native listeners. -/
def FreshTokens (history : List (Turn α)) : Prop :=
  ((connections history).map Prod.fst).Nodup

instance (history : List (Turn α)) : Decidable (FreshTokens history) :=
  inferInstanceAs (Decidable (List.Nodup _))

/-- A turn that brings a listener finds its registration waiting. -/
lemma Turn.connection?_eq_some {turn : Turn α} {token : Token} {handle : Handle} {signal : Signal}
    (h : turn.connection? = some (token, handle, signal)) :
    (∃ outcome, turn.happening = .moved (.connected token) outcome) ∧
      ∃ callback frames, turn.before.frames = .connecting handle signal callback :: frames := by
  unfold Turn.connection? at h
  split at h
  · rename_i hframes hhappening
    cases h
    exact ⟨⟨_, hhappening⟩, _, _, hframes⟩
  · cases h

/-- The newest turn adds its connection, if it brings one. -/
lemma connections_cons (turn : Turn α) (history : List (Turn α)) :
    connections (turn :: history) = turn.connection?.toList ++ connections history := by
  unfold connections
  cases h : turn.connection? <;> simp [h]

/-- The connections of a history are those of its parts. -/
lemma connections_append (later history : List (Turn α)) :
    connections (later ++ history) = connections later ++ connections history :=
  List.filterMap_append

/-- The newest turn adds its disconnections. -/
lemma disconnections_cons (turn : Turn α) (history : List (Turn α)) :
    disconnections (turn :: history) = turn.disconnections ++ disconnections history := rfl

/-- The newest turn adds the tokens that it abandons. -/
lemma abandoned_cons (turn : Turn α) (history : List (Turn α)) :
    abandoned (turn :: history) = turn.abandoned ++ abandoned history := rfl

/-- Part of a history with fresh tokens has fresh tokens. -/
lemma FreshTokens.of_suffix {later history : List (Turn α)} (h : FreshTokens history)
    (hs : later <:+ history) : FreshTokens later := by
  obtain ⟨newer, rfl⟩ := hs
  unfold FreshTokens at h
  rw [connections_append, List.map_append] at h
  exact h.of_append_right

/-- A fresh token was connected for one pair only. -/
lemma FreshTokens.pair_unique {history : List (Turn α)} (hf : FreshTokens history) {token : Token}
    {first second : Handle × Signal} (hm : (token, first) ∈ connections history)
    (hm' : (token, second) ∈ connections history) : first = second :=
  congrArg Prod.snd (List.inj_on_of_nodup_map hf hm hm' rfl)

/-- The tokens that a move brings are those of the listener that was waited for. -/
lemma Process.Turns.connection? {before after : Process α} {move : Move α} {outcome : Outcome α}
    (h : before.Turns (.moved move outcome) after) :
    (Turn.mk before (.moved move outcome) after).connection?.toList.map Prod.fst = move.tokens := by
  cases h with
  | shutdown hp hr => simp [Turn.connection?, Move.tokens]
  | step hs =>
    rcases Process.step_eq_some hs with ⟨operation, rfl, -⟩ |
      ⟨token, handle, signal, callback, frames, rfl, hf, -⟩ | ⟨rest, sequel, frames, rfl, -, -⟩ |
      ⟨rest, event, total, frames, rfl, -, -⟩
    · simp [Turn.connection?, Move.tokens]
    · simp [Turn.connection?, Move.tokens, hf]
    · simp [Turn.connection?, Move.tokens]
    · simp [Turn.connection?, Move.tokens]

/-! ## What a change does to the ledger -/

namespace Change

variable {before : Process α} {after : Registry α} {move : Move α} {released : List Token}

/-- A change keeps the tables coherent. -/
lemma coherent (h : Change before move released after) (c : Coherent before.registry) :
    Coherent after := by
  induction h with
  | keep => exact c
  | append hc ha => exact c.append hc ha
  | install _ hc ha => exact c.install hc ha _
  | retire handle _ ih => exact ih.retire handle
  | take handle => exact c.take handle
  | unsubscribe hu => exact c.unsubscribe hu
  | revive handle => exact c.revive handle
  | clear _ => exact .clear _

/-- A change installs nothing but the listener that was waited for. -/
lemma target? (h : Change before move released after) (c : Coherent before.registry)
    {token : Token} {handle : Handle} {signal : Signal}
    (ht : after.target? token = some (handle, signal)) :
    before.registry.target? token = some (handle, signal) ∨
      move = .connected token ∧
        ∃ callback frames, before.frames = .connecting handle signal callback :: frames := by
  induction h with
  | keep => exact .inl ht
  | append hc ha =>
    rw [Registry.target?, (marks_append ha).2.2.2.2] at ht
    exact .inl ht
  | install hf hc ha =>
    rw [target?_install] at ht
    split at ht
    · rename_i hn
      cases ht
      exact .inr ⟨by rw [hn], _, _, hf⟩
    · exact .inl ht
  | retire place _ ih =>
    refine ih ?_
    rw [Registry.retire, target?_take] at ht
    split at ht
    · cases ht
    · exact ht
  | take place =>
    rw [target?_take] at ht
    split at ht
    · cases ht
    · exact .inl ht
  | unsubscribe hu =>
    obtain ⟨place, listener, -, hrow, hl⟩ := c.exists_of_unsubscribe? hu
    rw [target?_unsubscribe hrow hl hu] at ht
    split at ht
    · cases ht
    · exact .inl ht
  | revive place => exact .inl ht
  | clear _ => simp at ht

/-- A change hands a listener back that it does not leave installed, be the listener an installed one
or the one that was waited for. -/
lemma installed_or_mem_released (h : Change before move released after)
    (c : Coherent before.registry) {token : Token} {handle : Handle} {signal : Signal}
    (hi : before.registry.Installed token handle signal ∨
      move = .connected token ∧
        ∃ callback frames, before.frames = .connecting handle signal callback :: frames) :
    after.Installed token handle signal ∨ token ∈ released := by
  induction h with
  | keep => exact hi.imp_right fun hm => by simp [hm.1, Move.tokens]
  | append _ ha =>
    rw [installed_append ha]
    exact hi.imp_right fun hm => by simp [hm.1, Move.tokens]
  | install hf _ _ =>
    rw [installed_install]
    rcases hi with hi | ⟨hm, callback, frames, hf'⟩
    · exact .inl (.inl hi)
    · rw [hf] at hf'
      cases hm
      cases hf'
      exact .inl (.inr ⟨rfl, rfl, rfl⟩)
  | @retire move released registry place _ ih =>
    rw [List.mem_append]
    rcases ih hi with hi | hm
    · by_cases hp : handle = place
      · subst hp
        obtain ⟨listener, hl, rfl, -⟩ := hi
        exact .inr (.inr (List.mem_map_of_mem hl))
      · exact .inl (installed_take.2 ⟨hi, hp⟩)
    · exact .inr (.inl hm)
  | take place =>
    rcases hi with hi | ⟨hm, -⟩
    · by_cases hp : handle = place
      · subst hp
        obtain ⟨listener, hl, rfl, -⟩ := hi
        exact .inr (List.mem_map_of_mem hl)
      · exact .inl (installed_take.2 ⟨hi, hp⟩)
    · cases hm
  | unsubscribe hu =>
    rcases hi with hi | ⟨hm, -⟩
    · exact (c.installed_or_unsubscribe hu hi).imp_right fun hr => by simp [hr]
    · cases hm
  | revive place =>
    rcases hi with hi | ⟨hm, -⟩
    · exact .inl hi
    · cases hm
  | clear hp =>
    rcases hi with ⟨listener, hl, rfl, -⟩ | ⟨hm, -⟩
    · exact .inr (hp.mem_iff.2 (List.mem_map_of_mem (mem_fst_clear.2 ⟨_, hl⟩)))
    · cases hm

variable (h : Change before move released after) (c : Coherent before.registry)
  (i : Indexed before.registry)
  (hfree : ∀ token ∈ move.tokens, before.registry.target? token = none)

include h c i hfree

/-- A change keeps the tokens indexed, as long as it brings none that is in use. -/
lemma indexed : Indexed after := by
  induction h with
  | keep => exact i
  | append hc ha => exact i.append ha
  | install _ hc ha => exact i.install (hfree _ (List.mem_singleton.2 rfl))
  | retire handle _ ih => exact (ih hfree).retire handle
  | take handle => exact i.take handle
  | unsubscribe hu => exact i.unsubscribe c hu
  | revive handle => exact i
  | clear _ => exact .clear _

/-- What a change hands back was installed or has just been connected, and what was not handed back
is installed. -/
lemma count_installs (token : Token) :
    move.tokens.count token + before.registry.installs token =
      released.count token + after.installs token := by
  induction h with
  | keep => rfl
  | append hc ha =>
    have hsame : ∀ registry : Registry α, registry.byToken = before.registry.byToken →
        registry.installs token = before.registry.installs token := by
      intro registry hb
      rw [installs, Registry.target?, hb]
      rfl
    rw [hsame _ (marks_append ha).2.2.2.2]
  | @install handle signal new callback frames _ hc ha =>
    have hnew : before.registry.target? new = none := hfree _ (List.mem_singleton.2 rfl)
    unfold installs
    rw [target?_install]
    by_cases ht : token = new
    · subst ht
      simp [Move.tokens, hnew]
    · simp [Move.tokens, ht, Ne.symm ht]
  | @retire move released registry handle hchange ih =>
    have htake := (hchange.indexed c i hfree).count_take (hchange.coherent c) handle token
    have hretire : (registry.retire handle).2.installs token =
      (registry.take handle).2.installs token := rfl
    have hbefore := ih hfree
    rw [List.count_append, hretire]
    omega
  | take handle =>
    rw [← i.count_take c handle token]
    simp [Move.tokens]
  | unsubscribe hu =>
    rw [← i.count_unsubscribe c hu token]
    simp [Move.tokens]
  | revive handle => rfl
  | clear hp =>
    rw [hp.count_eq, i.count_clear c token]
    simp [Move.tokens]

end Change

/-! ## Runs -/

/-- The tokens are indexed, and every native listener that was connected has one place: it is
installed, waits to be disconnected, is disconnected, or was given up. -/
structure Balanced (history : List (Turn α)) (process : Process α) : Prop where
  /-- The tokens are indexed. -/
  indexed : Indexed process.registry
  /-- A native listener has one place. -/
  count_connections (token : Token) :
    ((connections history).map Prod.fst).count token =
      process.registry.installs token + (pending process.frames).count token +
        (disconnections history).count token + (abandoned history).count token

namespace Run

variable {history : List (Turn α)} {process : Process α}

/-- The tables are coherent in every run. -/
theorem coherent (h : Run .initial history process) : Coherent process.registry := by
  induction h with
  | nil => exact .empty
  | @cons _ _ _ happening _ ht ih =>
    cases happening with
    | moved move outcome =>
      obtain ⟨released, hchange, -⟩ := exists_change ht
      exact hchange.coherent ih
    | unwound =>
      cases ht
      exact ih

/-- A listener is installed for the pair that it was connected for. -/
theorem mem_connections (h : Run .initial history process) {token : Token} {handle : Handle}
    {signal : Signal} (ht : process.registry.target? token = some (handle, signal)) :
    (token, handle, signal) ∈ connections history := by
  induction h with
  | nil => simp [Process.initial] at ht
  | @cons _ _ _ happening hr hturn ih =>
    rw [connections_cons]
    cases happening with
    | moved move outcome =>
      obtain ⟨released, hchange, -⟩ := exists_change hturn
      rcases hchange.target? hr.coherent ht with ht | ⟨rfl, callback, frames, hf⟩
      · exact List.mem_append_right _ (ih ht)
      · refine List.mem_append_left _ ?_
        simp [Turn.connection?, hf]
    | unwound =>
      cases hturn
      exact List.mem_append_right _ (ih ht)

/-- The token of a turn is not in use when it is fresh. -/
lemma target?_eq_none_of_freshTokens (h : Run .initial history process) {after : Process α}
    {move : Move α} {outcome : Outcome α} (ht : process.Turns (.moved move outcome) after)
    (hf : FreshTokens (⟨process, .moved move outcome, after⟩ :: history)) {token : Token}
    (hm : token ∈ move.tokens) : process.registry.target? token = none := by
  unfold FreshTokens at hf
  rw [connections_cons, List.map_append, ht.connection?, List.nodup_append'] at hf
  cases htarget : process.registry.target? token with
  | none => rfl
  | some pair => exact absurd (List.mem_map_of_mem (h.mem_connections htarget)) (hf.2.2 hm)

/-- **The ledger is balanced in every run with fresh tokens.**

**Proof sketch.** Induction on the run. What a move has handed back either waits or is disconnected
(`exists_change`), and it was installed or has just been connected (`Change.count_installs`). To
unwind gives up what the newest operation still had to disconnect. -/
theorem balanced (h : Run .initial history process) (hf : FreshTokens history) :
    Balanced history process := by
  induction h with
  | nil =>
    refine ⟨.empty, fun token => ?_⟩
    simp [connections, disconnections, abandoned, Process.initial, installs]
  | @cons history before after happening hr ht ih =>
    have b := ih (hf.of_suffix (List.suffix_cons _ _))
    cases happening with
    | moved move outcome =>
      obtain ⟨released, hchange, hperm⟩ := exists_change ht
      have hfree : ∀ token ∈ move.tokens, before.registry.target? token = none :=
        fun token hm => hr.target?_eq_none_of_freshTokens ht hf hm
      refine ⟨hchange.indexed hr.coherent b.indexed hfree, fun token => ?_⟩
      have hinstalls := hchange.count_installs hr.coherent b.indexed hfree token
      have hpending := hperm.count_eq token
      have hbefore := b.count_connections token
      rw [List.count_append, List.count_append] at hpending
      rw [connections_cons, List.map_append, ht.connection?, List.count_append,
        disconnections_cons, List.count_append, abandoned_cons, List.count_append]
      simp only [Turn.disconnections, Turn.abandoned, List.count_nil]
      omega
    | unwound =>
      cases ht with
      | @unwind frame frames hframes =>
        refine ⟨b.indexed, fun token => ?_⟩
        have hbefore := b.count_connections token
        rw [hframes, pending_cons, List.count_append] at hbefore
        rw [connections_cons, disconnections_cons, abandoned_cons, List.count_append]
        simp only [Turn.connection?, Turn.disconnections, Turn.abandoned, hframes]
        simp
        omega

end Run

end Compositor.Registry
