import Compositor.Proofs.Registry.Ledger

set_option autoImplicit false

/-!
# What native listeners stand for

What a token stands for can be read off the history: it is the pair that it was connected for last,
unless it was disconnected since. The index of the registry knows it, but for the listeners that wait
to be disconnected, which it has forgotten already. Tokens need not be fresh for this.

## Main definitions

* `Turn.mentions`, `route` — what a turn says of tokens, and what a token stands for.
* `Grounded` — the tokens in the index are those of listeners.
* `Routed` — the index knows what the native listeners stand for.

## Main results

* `Change.target?_of_tokens` — what a change does to the index, if it brings no listener.
* `Run.grounded` — the index is grounded in every run.
* `Routed.of_tokens`, `Routed.install`, `Routed.unwind` — turns keep the index right.
-/

namespace Compositor.Registry

variable {α : Type}

/-! ## What a history says -/

/-- The native listeners that a turn disconnects or connects, the latter with their pairs. -/
def Turn.mentions (turn : Turn α) : List (Token × Option (Handle × Signal)) :=
  turn.disconnections.map (fun token => (token, none)) ++
    turn.connection?.toList.map fun connection => (connection.1, some connection.2)

/-- The pair that a native listener was connected for last, unless it was disconnected since. -/
def route (history : List (Turn α)) (token : Token) : Option (Handle × Signal) :=
  ((history.flatMap Turn.mentions).find? fun mention => mention.1 = token).bind Prod.snd

/-- What the newest turn says of a token counts, or else what was said before. -/
lemma route_cons (turn : Turn α) (history : List (Turn α)) (token : Token) :
    route (turn :: history) token =
      ((turn.mentions.find? fun mention => mention.1 = token).or
        ((history.flatMap Turn.mentions).find? fun mention => mention.1 = token)).bind
          Prod.snd := by
  rw [route, List.flatMap_cons, List.find?_append]

/-- A turn that connects nothing takes away just what it disconnects. -/
lemma route_cons_of_connection? {turn : Turn α} (hc : turn.connection? = none)
    (history : List (Turn α)) (token : Token) :
    route (turn :: history) token =
      if token ∈ turn.disconnections then none else route history token := by
  rw [route_cons, Turn.mentions, hc, Option.toList_none, List.map_nil, List.append_nil,
    List.find?_map]
  split <;> rename_i hd
  · have hfound : turn.disconnections.find? ((fun mention => decide (mention.1 = token)) ∘
        fun token => (token, (none : Option (Handle × Signal)))) = some token := by
      cases hf : turn.disconnections.find? _ with
      | none => simpa using List.find?_eq_none.1 hf token hd
      | some found => simpa using List.find?_some hf
    rw [hfound]
    rfl
  · have hnone : turn.disconnections.find? ((fun mention => decide (mention.1 = token)) ∘
        fun token => (token, (none : Option (Handle × Signal)))) = none := by
      refine List.find?_eq_none.2 fun other ho => ?_
      have hne : other ≠ token := fun he => hd (he ▸ ho)
      simpa using hne
    rw [hnone]
    rfl

/-- A turn that disconnects nothing adds just what it connects. -/
lemma route_cons_of_disconnections {turn : Turn α} (hd : turn.disconnections = [])
    {new : Token} {pair : Handle × Signal} (hc : turn.connection? = some (new, pair))
    (history : List (Turn α)) (token : Token) :
    route (turn :: history) token = if token = new then some pair else route history token := by
  rw [route_cons, Turn.mentions, hd, hc]
  by_cases ht : token = new
  · simp [ht]
  · simp [ht, Ne.symm ht, route]

/-! ## The index -/

/-- The tokens in the index are those of listeners. A listener whose token was chosen again may be
missing there. -/
def Grounded (registry : Registry α) : Prop :=
  ∀ token handle signal,
    registry.target? token = some (handle, signal) → registry.Installed token handle signal

/-- Taking the listeners of a handle keeps the index to the tokens of listeners. -/
lemma Grounded.take {registry : Registry α} (g : Grounded registry) (handle : Handle) :
    Grounded (registry.take handle).2 := by
  intro token place kind ht
  rw [target?_take] at ht
  split at ht <;> rename_i hn
  · cases ht
  · have hi := g _ _ _ ht
    refine installed_take.2 ⟨hi, ?_⟩
    rintro rfl
    obtain ⟨listener, hl, rfl, -⟩ := hi
    exact hn (List.mem_map_of_mem hl)

/-- The empty index has no tokens. -/
lemma Grounded.empty : Grounded (empty : Registry α) := by
  intro token handle signal ht
  simp at ht

namespace Change

variable {before : Process α} {move : Move α} {released : List Token} {after : Registry α}

/-- A change keeps the index to the tokens of listeners. -/
lemma grounded (h : Change before move released after) (c : Coherent before.registry)
    (g : Grounded before.registry) : Grounded after := by
  induction h with
  | keep => exact g
  | append hc ha =>
    intro token place kind ht
    rw [Registry.target?, (marks_append ha).2.2.2.2] at ht
    exact (installed_append ha).2 (g _ _ _ ht)
  | install _ hc ha =>
    intro token place kind ht
    rw [target?_install] at ht
    rw [installed_install]
    split at ht
    · rename_i hn
      cases ht
      exact .inr ⟨rfl, rfl, hn⟩
    · exact .inl (g _ _ _ ht)
  | @retire move released registry handle _ ih =>
    exact ih.take handle
  | take handle => exact g.take handle
  | unsubscribe hu =>
    intro token place kind ht
    obtain ⟨handle, listener, -, hrow, hl⟩ := c.exists_of_unsubscribe? hu
    rw [target?_unsubscribe hrow hl hu] at ht
    split at ht
    · cases ht
    · rename_i hn
      exact (c.installed_or_unsubscribe hu (g _ _ _ ht)).resolve_right hn
  | revive handle => exact g
  | clear _ => exact fun token place kind ht => by simp at ht

/-- A change that brings no listener takes just what it hands back out of the index. -/
lemma target?_of_tokens (h : Change before move released after) (c : Coherent before.registry)
    (g : Grounded before.registry) (hm : move.tokens = []) (token : Token) :
    after.target? token =
      if token ∈ released then none else before.registry.target? token := by
  induction h with
  | keep => rw [hm, if_neg List.not_mem_nil]
  | append hc ha =>
    rw [hm, if_neg List.not_mem_nil, Registry.target?, (marks_append ha).2.2.2.2, Registry.target?]
  | install _ _ _ => cases hm
  | @retire move released registry handle _ ih =>
    have htake : (registry.retire handle).2.target? token =
        (registry.take handle).2.target? token := rfl
    rw [htake, target?_take, ih hm]
    by_cases hr : token ∈ released
    · simp [hr]
    · simp only [hr, if_false, List.mem_append, false_or]
  | take handle => exact target?_take _ _ _
  | unsubscribe hu =>
    obtain ⟨place, listener, -, hrow, hl⟩ := c.exists_of_unsubscribe? hu
    rw [target?_unsubscribe hrow hl hu]
    simp [Option.mem_toList]
  | revive handle => rfl
  | clear hp =>
    rw [target?_clear]
    split <;> rename_i hr
    · rfl
    · cases ht : before.registry.target? token with
      | none => rfl
      | some pair =>
        obtain ⟨listener, hl, rfl, -⟩ := g _ _ _ ht
        exact absurd (hp.mem_iff.2 (List.mem_map_of_mem (mem_fst_clear.2 ⟨_, hl⟩))) hr

end Change

/-- The tokens in the index are those of listeners, in every run. -/
lemma Run.grounded {history : List (Turn α)} {process : Process α}
    (h : Run .initial history process) : Grounded process.registry := by
  induction h with
  | nil => exact .empty
  | @cons _ before after happening hr ht ih =>
    cases happening with
    | moved move outcome =>
      obtain ⟨released, hchange, -⟩ := exists_change ht
      exact hchange.grounded hr.coherent ih
    | unwound =>
      cases ht
      exact ih

/-- The index has just the native listeners that stand for a pair and do not wait to be
disconnected. -/
def Routed (history : List (Turn α)) (process : Process α) : Prop :=
  ∀ token, process.registry.target? token =
    if token ∈ pending process.frames then none else route history token

/-- A move that brings no listener keeps the index right. -/
lemma Routed.of_tokens {history : List (Turn α)} {before after : Process α} {move : Move α}
    {outcome : Outcome α} (hrun : Run .initial history before) (hr : Routed history before)
    (h : before.Turns (.moved move outcome) after) (hm : move.tokens = []) :
    Routed (⟨before, .moved move outcome, after⟩ :: history) after := by
  intro token
  obtain ⟨released, hchange, hperm⟩ := exists_change h
  have hnone : (Turn.mk before (.moved move outcome) after).connection? = none := by
    have hc := h.connection?
    rw [hm, List.map_eq_nil_iff] at hc
    simpa using hc
  rw [hchange.target?_of_tokens hrun.coherent hrun.grounded hm, hr,
    route_cons_of_connection? hnone]
  have hmem := hperm.mem_iff (a := token)
  simp only [List.mem_append] at hmem
  change _ = if _ then none else if token ∈ outcome.disconnections then none else _
  by_cases hp : token ∈ released ∨ token ∈ pending before.frames
  · rcases hmem.1 hp with ha | hd
    · rcases hp with hp | hp <;> simp [hp, ha]
    · rcases hp with hp | hp <;> simp [hp, hd]
  · have hq : ¬ (token ∈ pending after.frames ∨ token ∈ outcome.disconnections) :=
      fun hq => hp (hmem.2 hq)
    rw [not_or] at hp hq
    simp [hp, hq]

/-- A listener that is installed when it is connected stands for its pair. -/
lemma Routed.install {history : List (Turn α)} {before : Process α} (hr : Routed history before)
    {handle : Handle} {signal : Signal} {callback : Callback α} {frames : List (Frame α)}
    (hf : before.frames = .connecting handle signal callback :: frames)
    (hp : pending frames = []) (token : Token) (reply : Reply) :
    let after := ⟨before.registry.install handle signal token callback, frames⟩
    Routed (⟨before, .moved (.connected token) (.answered reply), after⟩ :: history) after := by
  intro after other
  have hc : (Turn.mk before (.moved (.connected token) (.answered reply)) after).connection? =
      some (token, handle, signal) := by
    simp only [Turn.connection?, hf]
  have hbefore := hr other
  have hnone : pending before.frames = [] := by simp [hf, hp, Frame.pending]
  rw [hnone, if_neg List.not_mem_nil] at hbefore
  rw [route_cons_of_disconnections rfl hc, target?_install, hbefore, hp, if_neg List.not_mem_nil]

/-- Giving up an operation that releases nothing keeps the index right. -/
lemma Routed.unwind {history : List (Turn α)} {before : Process α} (hr : Routed history before)
    {frame : Frame α} {frames : List (Frame α)} (hf : before.frames = frame :: frames)
    (hp : frame.pending = []) :
    let after := ⟨before.registry, frames⟩
    Routed (⟨before, .unwound, after⟩ :: history) after := by
  intro after token
  have hc : (Turn.mk before .unwound after).connection? = none := by
    unfold Turn.connection?
    split
    · rename_i h
      cases h
    · rfl
  have hbefore := hr token
  rw [hf, pending_cons, hp, List.nil_append] at hbefore
  rw [route_cons_of_connection? hc, hbefore]
  rfl

end Compositor.Registry
