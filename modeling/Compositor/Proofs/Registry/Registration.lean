import Compositor.Proofs.Registry.Firing
import Compositor.Proofs.Registry.Snapshots
import Compositor.Proofs.Registry.WellFormed

set_option autoImplicit false

/-!
# Registrations

A registration looks at the tables in *rounds*. The first one may find that the pair has no
listener. Then a native listener is connected with the tables at rest, and the second round looks
at them afresh: meanwhile another registration may have installed the pair, the handle may have been
retired or the registry shut down. This module follows what the registration does itself, as opposed
to what is done on top of it while it waits.

## Main definitions

* `ownTurns`, `rounds` — the turns of an operation at some depth, and those that look at the tables.
* `Verdict` — what a round decides.
* `Registering` — the turns of a registration, as a grammar.
* `Refused`, `Accepted`, `Registers` — what a registration does.

## Main results

* `Executing.registering` — where a registration stands after any turns.
* `registers_of_run` — every registration is atomic, and takes at most two rounds.
-/

namespace Compositor.Registry

variable {α : Type}

/-! ## Own turns -/

/-- The turns of the operations upon so many waiting ones, newest first. -/
def ownTurns (depth : ℕ) (span : List (Turn α)) : List (Turn α) :=
  span.filter fun turn => turn.below.length = depth

/-- Whether a turn of a registration looks at the tables: it is called, or has a native listener. -/
def Turn.isRound (turn : Turn α) : Bool :=
  match turn.happening with
  | .moved .finished _ => false
  | .moved _ _ => true
  | .unwound => false

/-- The rounds of the registrations upon so many waiting operations, newest first. -/
def rounds (depth : ℕ) (span : List (Turn α)) : List (Turn α) :=
  (ownTurns depth span).filter Turn.isRound

/-- The pair that an outcome asks to connect a native listener for. -/
def Outcome.asks? : Outcome α → Option (Handle × Signal)
  | .demands (.connect handle signal) => some (handle, signal)
  | _ => none

/-- The pair that a turn asks to connect a native listener for. -/
def Turn.asks? (turn : Turn α) : Option (Handle × Signal) :=
  match turn.happening with
  | .moved _ outcome => outcome.asks?
  | .unwound => none

/-- What an operation subscribes to which pair, if it is a registration. -/
def Operation.registration? : Operation α → Option (Handle × Signal × Callback α)
  | .register handle signal action => some (handle, signal, .run action)
  | .track handle signal => some (handle, signal, .retire handle)
  | _ => none

/-- The turns of an operation are the turns at its own depth. -/
lemma ownTurns_cons (depth : ℕ) (turn : Turn α) (span : List (Turn α)) :
    ownTurns depth (turn :: span) =
      if turn.below.length = depth then turn :: ownTurns depth span else ownTurns depth span := by
  simp [ownTurns, List.filter_cons]

/-! ## Rounds -/

/-- What a round decides that does not ask for a native listener: the tables after it, the reply,
and the listener that was connected in vain. -/
inductive Verdict (registry : Registry α) (handle : Handle) (signal : Signal)
    (callback : Callback α) (connected : Option Token) :
    Registry α → Reply → Option Token → Prop
  /-- The registration is refused. -/
  | refused {refusal : Refusal} : registry.check handle = .error refusal →
    Verdict registry handle signal callback connected registry (.refused refusal) connected
  /-- The pair has a listener, which gets one more subscriber. -/
  | appended {after : Registry α} : registry.check handle = .ok () →
    registry.append? handle signal callback = some after →
    Verdict registry handle signal callback connected after (.subscribed registry.nextId) connected
  /-- The native listener is installed. -/
  | installed {token : Token} : registry.check handle = .ok () →
    registry.append? handle signal callback = none → connected = some token →
    Verdict registry handle signal callback connected
      (registry.install handle signal token callback) (.subscribed registry.nextId) none

/-- The outcome of a decision: a listener that was connected in vain is disconnected before the
registration answers. -/
def outcomeOf (reply : Reply) : Option Token → Outcome α
  | none => .answered reply
  | some token => .demands (.disconnect token)

/-- Where a registration stands. -/
inductive Phase where
  /-- Its native listener is being connected. -/
  | connecting
  /-- A listener that was connected in vain is being disconnected. -/
  | releasing (reply : Reply)
  /-- It has returned. -/
  | returned (reply : Reply)
  /-- It was given up. -/
  | unwound

/-- Where a decision leads. -/
def Phase.of (reply : Reply) : Option Token → Phase
  | none => .returned reply
  | some _ => .releasing reply

/-- A round that asks for a native listener. -/
structure Turn.Asks (turn : Turn α) (handle : Handle) (signal : Signal) : Prop where
  /-- The environment is asked when the registration is called. -/
  happening_eq : ∃ operation,
    turn.happening = .moved (.call operation) (.demands (.connect handle signal))
  /-- The pair has no listener. -/
  listener?_eq : turn.before.registry.listener? handle signal = none
  /-- The tables stay as they are. -/
  registry_eq : turn.after.registry = turn.before.registry

/-- A round that decides. -/
structure Turn.Decides (turn : Turn α) (handle : Handle) (signal : Signal) (callback : Callback α)
    (connected : Option Token) (reply : Reply) (vain : Option Token) : Prop where
  /-- It decides on the tables that it finds. -/
  verdict : Verdict turn.before.registry handle signal callback connected turn.after.registry reply
    vain
  /-- What it leads to. -/
  happening_eq : ∃ move, turn.happening = .moved move (outcomeOf reply vain)
  /-- It looks at the tables. -/
  isRound : turn.isRound = true
  /-- It brings the listener that was asked for. -/
  connection?_eq : turn.connection? = connected.map fun token => (token, handle, signal)

/-- The turns of a registration, newest first, and where they lead. -/
inductive Registering (start : Process α) (handle : Handle) (signal : Signal)
    (callback : Callback α) : List (Turn α) → Phase → Prop
  /-- The first round asks for a native listener. -/
  | asked {turn : Turn α} : turn.before = start → turn.Asks handle signal →
    Registering start handle signal callback [turn] .connecting
  /-- The first round decides. -/
  | decided {turn : Turn α} {reply : Reply} : turn.before = start →
    turn.Decides handle signal callback none reply none →
    Registering start handle signal callback [turn] (.returned reply)
  /-- The second round decides. -/
  | answered {own : List (Turn α)} {turn : Turn α} {token : Token} {reply : Reply}
      {vain : Option Token} : Registering start handle signal callback own .connecting →
    turn.Decides handle signal callback (some token) reply vain →
    Registering start handle signal callback (turn :: own) (.of reply vain)
  /-- The listener is disconnected. -/
  | finished {own : List (Turn α)} {turn : Turn α} {reply : Reply} :
    Registering start handle signal callback own (.releasing reply) →
    turn.happening = .moved .finished (.answered reply) →
    turn.after.registry = turn.before.registry →
    Registering start handle signal callback (turn :: own) (.returned reply)
  /-- The registration is given up. -/
  | unwound {own : List (Turn α)} {turn : Turn α} {phase : Phase} :
    Registering start handle signal callback own phase → turn.happening = .unwound →
    turn.after.registry = turn.before.registry →
    Registering start handle signal callback (turn :: own) .unwound

/-- What waits when a registration stands somewhere. -/
def Phase.Fits (phase : Phase) (handle : Handle) (signal : Signal) (callback : Callback α)
    (base : List (Frame α)) (now : Process α) : Prop :=
  match phase with
  | .connecting => ∃ inner, now.frames = inner ++ .connecting handle signal callback :: base
  | .releasing reply => ∃ inner, now.frames = inner ++ .releasing [] (.reply reply) :: base
  | .returned _ => now.frames = base
  | .unwound => now.frames = base

namespace Process

variable {registry : Registry α} {handle : Handle} {signal : Signal} {callback : Callback α}
  {operation : Operation α}

/-- A registration begins with a round. -/
lemma call_of_registration? (ho : operation.registration? = some (handle, signal, callback))
    (process : Process α) :
    process.call operation =
      attempt process.registry process.frames handle signal callback none := by
  cases operation with
  | register => cases ho; rfl
  | track => cases ho; rfl
  | dispatch | dispatchNative | unregisterAll | unsubscribe | revive | shutdown => cases ho

/-- A round asks for a native listener, or it decides and releases what was connected in vain. -/
lemma attempt_cases (registry : Registry α) (frames : List (Frame α)) (handle : Handle)
    (signal : Signal) (callback : Callback α) (connected : Option Token) :
    (connected = none ∧ registry.listener? handle signal = none ∧
      attempt registry frames handle signal callback connected =
        (⟨registry, .connecting handle signal callback :: frames⟩,
          .demands (.connect handle signal))) ∨
    ∃ after reply vain, Verdict registry handle signal callback connected after reply vain ∧
      attempt registry frames handle signal callback connected =
        release after frames (.reply reply) vain.toList := by
  cases hc : registry.check handle with
  | error refusal => exact .inr ⟨_, _, _, .refused hc, by simp only [attempt, hc]⟩
  | ok admitted =>
    cases ha : registry.append? handle signal callback with
    | some after => exact .inr ⟨_, _, _, .appended hc ha, by simp only [attempt, hc, ha]⟩
    | none =>
      cases connected with
      | none => exact .inl ⟨rfl, append?_eq_none_iff.1 ha, by simp only [attempt, hc, ha]⟩
      | some token =>
        refine .inr ⟨_, _, _, .installed hc ha rfl, ?_⟩
        simp only [attempt, hc, ha]
        rfl

/-- What releasing a listener that was connected in vain leads to. -/
lemma release_toList (registry : Registry α) (frames : List (Frame α)) (handle : Handle)
    (signal : Signal) (callback : Callback α) (reply : Reply) (vain : Option Token) :
    (release registry frames (.reply reply) vain.toList).1.registry = registry ∧
      (release registry frames (.reply reply) vain.toList).2 = outcomeOf reply vain ∧
      (Phase.of reply vain).Fits handle signal callback frames
        (release registry frames (.reply reply) vain.toList).1 := by
  cases vain with
  | none => exact ⟨rfl, rfl, rfl⟩
  | some token => exact ⟨rfl, rfl, [], rfl⟩

variable {before after : Process α} {move : Move α} {outcome : Outcome α} {base : List (Frame α)}

/-- The first turn of a registration. -/
lemma Turns.registering_call (ho : operation.registration? = some (handle, signal, callback))
    (h : before.Turns (.moved (.call operation) outcome) after) :
    ∃ phase, Registering before handle signal callback
        [⟨before, .moved (.call operation) outcome, after⟩] phase ∧
      phase.Fits handle signal callback before.frames after := by
  have hne : operation ≠ .shutdown := by
    rintro rfl
    cases ho
  have hcall := h.call_eq hne
  rw [call_of_registration? ho] at hcall
  rcases attempt_cases before.registry before.frames handle signal callback none with
    ⟨-, hl, ha⟩ | ⟨left, reply, vain, hv, ha⟩
  · obtain ⟨rfl, rfl⟩ := Prod.mk.inj (ha.symm.trans hcall)
    exact ⟨.connecting, .asked rfl ⟨⟨_, rfl⟩, hl, rfl⟩, [], rfl⟩
  · -- nothing was connected, so nothing was connected in vain
    obtain rfl : vain = none := by cases hv <;> rfl
    obtain ⟨rfl, rfl⟩ := Prod.mk.inj (ha.symm.trans hcall)
    exact ⟨_, .decided rfl ⟨hv, ⟨_, rfl⟩, rfl, by simp [Turn.connection?]⟩, rfl⟩

/-- The turn in which a registration goes on with the native listener that it asked for. -/
lemma Turns.decides (h : before.Turns (.moved move outcome) after)
    (hm : ∀ operation, move ≠ .call operation)
    (hf : before.frames = .connecting handle signal callback :: base) :
    ∃ token reply vain,
      (Turn.mk before (.moved move outcome) after).Decides handle signal callback (some token) reply
        vain ∧
      (Phase.of reply vain).Fits handle signal callback base after := by
  cases h with
  | shutdown _ _ => exact absurd rfl (hm .shutdown)
  | step hs =>
    rcases step_eq_some hs with ⟨operation, rfl, -⟩ |
      ⟨token, place, kind, other, frames, rfl, hf', he⟩ | ⟨rest, sequel, frames, rfl, hf', -⟩ |
      ⟨rest, event, total, frames, rfl, hf', -⟩
    · exact absurd rfl (hm operation)
    · rw [hf] at hf'
      cases hf'
      rcases attempt_cases before.registry base handle signal callback (some token) with
        ⟨hn, -, -⟩ | ⟨left, reply, vain, hv, ha⟩
      · cases hn
      · obtain ⟨hregistry, houtcome, hfits⟩ :=
          release_toList left base handle signal callback reply vain
        rw [← ha, he] at hregistry houtcome hfits
        refine ⟨token, reply, vain, ⟨?_, ⟨_, congrArg _ houtcome⟩, rfl, ?_⟩, hfits⟩
        · rwa [hregistry]
        · simp [Turn.connection?, hf]
    · rw [hf] at hf'
      cases hf'
    · rw [hf] at hf'
      cases hf'

/-- The turn in which a registration answers after its listener was disconnected. -/
lemma Turns.finishes {reply : Reply} (h : before.Turns (.moved move outcome) after)
    (hm : ∀ operation, move ≠ .call operation)
    (hf : before.frames = .releasing [] (.reply reply) :: base) :
    move = .finished ∧ outcome = .answered reply ∧ after = ⟨before.registry, base⟩ := by
  cases h with
  | shutdown _ _ => exact absurd rfl (hm .shutdown)
  | step hs =>
    rcases step_eq_some hs with ⟨operation, rfl, -⟩ |
      ⟨token, place, kind, other, frames, rfl, hf', -⟩ | ⟨rest, sequel, frames, rfl, hf', he⟩ |
      ⟨rest, event, total, frames, rfl, hf', -⟩
    · exact absurd rfl (hm operation)
    · rw [hf] at hf'
      cases hf'
    · rw [hf] at hf'
      cases hf'
      cases he
      exact ⟨rfl, rfl, rfl⟩
    · rw [hf] at hf'
      cases hf'

/-- What is left waiting after a turn: what waits below it, and perhaps one operation more. -/
lemma Turns.below_length {happening : Happening α} (h : before.Turns happening after) :
    after.frames.length = (Turn.mk before happening after).below.length ∨
      after.frames.length = (Turn.mk before happening after).below.length + 1 := by
  cases happening with
  | unwound =>
    cases h with
    | unwind hf => exact .inl (by simp [Turn.below, hf])
  | moved move outcome =>
    have hstacks := h.stacks
    cases outcome with
    | answered reply => exact .inl (congrArg List.length hstacks)
    | demands demand =>
      obtain ⟨frame, hf, -⟩ := hstacks
      exact .inr (congrArg List.length hf)

end Process

/-! ## Where a registration stands -/

variable {start now : Process α} {operation : Operation α} {handle : Handle} {signal : Signal}
  {callback : Callback α} {span own : List (Turn α)}

/-- An operation comes to its end in a turn of its own. -/
lemma Executing.head?_ownTurns (h : Executing start operation span now)
    (hle : now.frames.length ≤ start.frames.length) :
    (ownTurns start.frames.length span).head? = span.head? := by
  cases h with
  | call ht => simp [ownTurns, Turn.below, Move.base]
  | @turn span before _ happening _ hlt ht =>
    have hlength := ht.below_length
    have htail : before.frames.length ≤ before.frames.tail.length + 1 := by
      rw [List.length_tail]
      omega
    have hbelow : before.frames.length ≤ (Turn.mk before happening now).below.length + 1 := by
      cases happening with
      | unwound => exact htail
      | moved move outcome =>
        cases move with
        | call operation => exact Nat.le_succ _
        | connected token => exact htail
        | finished => exact htail
    rw [ownTurns_cons, if_pos (by omega)]
    rfl

/-- **Where a registration stands after any turns.**

**Proof sketch.** Induction on the turns. Only the turns of the registration itself count, and
no other turn touches its frame, in which stands what it does next. -/
lemma Executing.registering (ho : operation.registration? = some (handle, signal, callback))
    (h : Executing start operation span now) :
    ∃ phase, Registering start handle signal callback (ownTurns start.frames.length span) phase ∧
      phase.Fits handle signal callback start.frames now := by
  induction h with
  | call ht =>
    rw [ownTurns_cons, if_pos (by rfl)]
    exact ht.registering_call ho
  | @turn span before after happening _ hlt ht ih =>
    obtain ⟨phase, hr, hf⟩ := ih
    rw [ownTurns_cons]
    cases phase with
    | returned reply => exact absurd (congrArg List.length hf) hlt.ne'
    | unwound => exact absurd (congrArg List.length hf) hlt.ne'
    | connecting =>
      obtain ⟨inner, hf⟩ := hf
      rcases ht.above_or hf with ⟨hbelow, hafter⟩ | ⟨hf, ⟨move, outcome, rfl, hm⟩ | ⟨rfl, hafter⟩⟩
      · rw [if_neg hbelow]
        exact ⟨.connecting, hr, hafter⟩
      · obtain ⟨token, reply, vain, hd, hfits⟩ := ht.decides hm hf
        rw [if_pos (by simp [Turn.below, Move.base_of_ne_call hm, hf])]
        exact ⟨_, hr.answered hd, hfits⟩
      · rw [if_pos (by simp [Turn.below, hf])]
        refine ⟨.unwound, hr.unwound rfl ?_, hafter⟩
        cases ht
        rfl
    | releasing reply =>
      obtain ⟨inner, hf⟩ := hf
      rcases ht.above_or hf with ⟨hbelow, hafter⟩ | ⟨hf, ⟨move, outcome, rfl, hm⟩ | ⟨rfl, hafter⟩⟩
      · rw [if_neg hbelow]
        exact ⟨.releasing reply, hr, hafter⟩
      · obtain ⟨rfl, rfl, rfl⟩ := ht.finishes hm hf
        rw [if_pos (by simp [Turn.below, Move.base, hf])]
        exact ⟨.returned reply, hr.finished rfl rfl, rfl⟩
      · rw [if_pos (by simp [Turn.below, hf])]
        refine ⟨.unwound, hr.unwound rfl ?_, hafter⟩
        cases ht
        rfl

/-! ## What a registration does -/

section Turns

variable {turn : Turn α} {connected vain : Option Token} {reply : Reply}

/-- A turn that does nothing but go on or give up. -/
structure Turn.Quiet (turn : Turn α) : Prop where
  /-- The tables stay as they are. -/
  registry_eq : turn.after.registry = turn.before.registry
  /-- It does not look at them. -/
  isRound : turn.isRound = false
  /-- It asks for no listener. -/
  asks?_eq : turn.asks? = none
  /-- It disconnects no listener. -/
  disconnections_eq : turn.disconnections = []
  /-- It brings no listener. -/
  connection?_eq : turn.connection? = none

/-- A turn that just goes on with its answer is quiet. -/
lemma Turn.quiet_of_finished (hh : turn.happening = .moved .finished (.answered reply))
    (he : turn.after.registry = turn.before.registry) : turn.Quiet := by
  refine ⟨he, ?_, ?_, ?_, ?_⟩ <;>
    simp [Turn.isRound, Turn.asks?, Turn.disconnections, Turn.connection?, hh, Outcome.asks?,
      Outcome.disconnections]

/-- A turn that just gives up is quiet. -/
lemma Turn.quiet_of_unwound (hh : turn.happening = .unwound)
    (he : turn.after.registry = turn.before.registry) : turn.Quiet := by
  refine ⟨he, ?_, ?_, ?_, ?_⟩ <;>
    simp [Turn.isRound, Turn.asks?, Turn.disconnections, Turn.connection?, hh]

namespace Turn.Asks

/-- Asking for a listener is a round. -/
lemma isRound (h : turn.Asks handle signal) : turn.isRound = true := by
  obtain ⟨operation, hh⟩ := h.happening_eq
  simp [Turn.isRound, hh]

/-- What it asks for is a listener of the pair. -/
lemma asks?_eq (h : turn.Asks handle signal) : turn.asks? = some (handle, signal) := by
  obtain ⟨operation, hh⟩ := h.happening_eq
  simp [Turn.asks?, hh, Outcome.asks?]

/-- Asking for a listener disconnects none. -/
lemma disconnections_eq (h : turn.Asks handle signal) : turn.disconnections = [] := by
  obtain ⟨operation, hh⟩ := h.happening_eq
  simp [Turn.disconnections, hh, Outcome.disconnections]

/-- Asking for a listener does not yet bring it. -/
lemma connection?_eq (h : turn.Asks handle signal) : turn.connection? = none := by
  obtain ⟨operation, hh⟩ := h.happening_eq
  simp [Turn.connection?, hh]

end Turn.Asks

namespace Turn.Decides

/-- A round that decides asks for no listener. -/
lemma asks?_eq (h : turn.Decides handle signal callback connected reply vain) :
    turn.asks? = none := by
  obtain ⟨move, hh⟩ := h.happening_eq
  cases vain <;> simp [Turn.asks?, hh, outcomeOf, Outcome.asks?]

/-- A round that decides disconnects just the listener that was connected in vain. -/
lemma disconnections_eq (h : turn.Decides handle signal callback connected reply vain) :
    turn.disconnections = vain.toList := by
  obtain ⟨move, hh⟩ := h.happening_eq
  cases vain <;> simp [Turn.disconnections, hh, outcomeOf, Outcome.disconnections]

end Turn.Decides

end Turns

/-- What the turns of a registration amount to when it has decided, in the given round. -/
structure Decided (own : List (Turn α)) (handle : Handle) (signal : Signal) (callback : Callback α)
    (last : Turn α) (connected : Option Token) (reply : Reply) (vain : Option Token) : Prop where
  /-- The round decides. -/
  decides : last.Decides handle signal callback connected reply vain
  /-- It is the last one. -/
  newest : (own.filter Turn.isRound).head? = some last
  /-- The other turns leave the tables as they are. -/
  others {turn : Turn α} : turn ∈ own → turn ≠ last → turn.after.registry = turn.before.registry
  /-- The listener that the registration connected. -/
  connections_eq : (connections own).map Prod.fst = connected.toList
  /-- The listener that it disconnected. -/
  disconnections_eq : disconnections own = vain.toList
  /-- Unless a listener was connected in vain, the round is where the registration ends. -/
  head?_eq : vain = none → own.head? = some last

section Decisions

variable {last turn : Turn α} {connected vain : Option Token} {reply : Reply}

/-- The first round may decide. -/
lemma Turn.Decides.decided (h : turn.Decides handle signal callback connected reply vain) :
    Decided [turn] handle signal callback turn connected reply vain where
  decides := h
  newest := by simp [h.isRound]
  others hm hne := absurd (List.mem_singleton.1 hm) hne
  connections_eq := by
    cases connected <;> simp [connections, h.connection?_eq]
  disconnections_eq := by simp [Registry.disconnections, h.disconnections_eq]
  head?_eq _ := rfl

/-- Otherwise the second one does. -/
lemma Turn.Decides.decided_of_asks {first : Turn α} (ha : first.Asks handle signal)
    (h : turn.Decides handle signal callback connected reply vain) :
    Decided [turn, first] handle signal callback turn connected reply vain where
  decides := h
  newest := by simp [h.isRound]
  others hm hne := by
    rcases List.mem_pair.1 hm with rfl | rfl
    · exact absurd rfl hne
    · exact ha.registry_eq
  connections_eq := by
    cases connected <;> simp [connections, h.connection?_eq, ha.connection?_eq]
  disconnections_eq := by
    simp [Registry.disconnections, h.disconnections_eq, ha.disconnections_eq]
  head?_eq _ := rfl

/-- The decision stands while its listener is disconnected. -/
lemma Decided.cons (d : Decided own handle signal callback last connected reply vain)
    (hv : vain ≠ none) (hq : turn.Quiet) :
    Decided (turn :: own) handle signal callback last connected reply vain where
  decides := d.decides
  newest := by rw [List.filter_cons_of_neg (by simp [hq.isRound]), d.newest]
  others hm hne := by
    rcases List.mem_cons.1 hm with rfl | hm
    · exact hq.registry_eq
    · exact d.others hm hne
  connections_eq := by
    rw [connections_cons, hq.connection?_eq]
    exact d.connections_eq
  disconnections_eq := by
    rw [disconnections_cons, hq.disconnections_eq]
    exact d.disconnections_eq
  head?_eq hn := absurd hn hv

end Decisions

namespace Registering

variable {phase : Phase} {reply : Reply}

/-- While its listener is being connected, a registration has asked for it. -/
lemma exists_asks (h : Registering start handle signal callback own .connecting) :
    ∃ turn, own = [turn] ∧ turn.before = start ∧ turn.Asks handle signal := by
  generalize hp : Phase.connecting = phase at h
  cases h with
  | asked hs ha => exact ⟨_, rfl, hs, ha⟩
  | decided _ _ => cases hp
  | @answered _ _ _ _ vain _ _ => cases vain <;> cases hp
  | finished _ _ _ => cases hp
  | unwound _ _ _ => cases hp

/-- While its listener is being disconnected, a registration has decided. -/
lemma exists_decided_of_releasing
    (h : Registering start handle signal callback own (.releasing reply)) :
    ∃ last connected token,
      Decided own handle signal callback last connected reply (some token) := by
  generalize hp : Phase.releasing reply = phase at h
  cases h with
  | asked _ _ => cases hp
  | decided _ _ => cases hp
  | @answered _ _ _ _ vain hr hd =>
    cases vain with
    | none => cases hp
    | some token =>
      cases hp
      obtain ⟨first, rfl, -, ha⟩ := hr.exists_asks
      exact ⟨_, _, token, hd.decided_of_asks ha⟩
  | finished _ _ _ => cases hp
  | unwound _ _ _ => cases hp

/-- When it has returned, a registration has decided. -/
lemma exists_decided (h : Registering start handle signal callback own (.returned reply)) :
    ∃ last connected vain, Decided own handle signal callback last connected reply vain := by
  generalize hp : Phase.returned reply = phase at h
  cases h with
  | asked _ _ => cases hp
  | decided _ hd =>
    cases hp
    exact ⟨_, _, _, hd.decided⟩
  | @answered _ _ _ _ vain hr hd =>
    cases vain with
    | some token => cases hp
    | none =>
      cases hp
      obtain ⟨first, rfl, -, ha⟩ := hr.exists_asks
      exact ⟨_, _, _, hd.decided_of_asks ha⟩
  | finished hr hh he =>
    cases hp
    obtain ⟨last, connected, token, d⟩ := hr.exists_decided_of_releasing
    exact ⟨_, _, _, d.cons nofun (Turn.quiet_of_finished hh he)⟩
  | unwound _ _ _ => cases hp

/-- When it has returned, its newest turn has answered. -/
lemma exists_answer (h : Registering start handle signal callback own (.returned reply)) :
    ∃ turn ∈ own.head?, ∃ move, turn.happening = .moved move (.answered reply) := by
  generalize hp : Phase.returned reply = phase at h
  cases h with
  | asked _ _ => cases hp
  | decided _ hd =>
    cases hp
    exact ⟨_, rfl, hd.happening_eq⟩
  | @answered _ _ _ _ vain hr hd =>
    cases vain with
    | some token => cases hp
    | none =>
      cases hp
      exact ⟨_, rfl, hd.happening_eq⟩
  | finished _ hh _ =>
    cases hp
    exact ⟨_, rfl, _, hh⟩
  | unwound _ _ _ => cases hp

/-- When it was given up, its newest turn has unwound. -/
lemma exists_unwound (h : Registering start handle signal callback own .unwound) :
    ∃ turn ∈ own.head?, turn.happening = .unwound := by
  generalize hp : Phase.unwound = phase at h
  cases h with
  | asked _ _ => cases hp
  | decided _ _ => cases hp
  | @answered _ _ _ _ vain _ _ => cases vain <;> cases hp
  | finished _ _ _ => cases hp
  | unwound _ hh _ => exact ⟨_, rfl, hh⟩

/-- A registration takes at most two rounds. -/
lemma length_rounds_le (h : Registering start handle signal callback own phase) :
    (own.filter Turn.isRound).length ≤ 2 := by
  induction h with
  | asked _ ha => simp [ha.isRound]
  | decided _ hd => simp [hd.isRound]
  | answered hr hd ih =>
    obtain ⟨first, rfl, -, ha⟩ := hr.exists_asks
    simp [ha.isRound, hd.isRound]
  | finished _ hh he ih =>
    rwa [List.filter_cons_of_neg (by simp [(Turn.quiet_of_finished hh he).isRound])]
  | unwound _ hh he ih =>
    rwa [List.filter_cons_of_neg (by simp [(Turn.quiet_of_unwound hh he).isRound])]

/-- A registration asks for its pair, at most once, and only if the pair had no listener when it was
called. -/
lemma asks_eq (h : Registering start handle signal callback own phase) :
    own.filterMap Turn.asks? = [] ∨
      own.filterMap Turn.asks? = [(handle, signal)] ∧
        start.registry.listener? handle signal = none := by
  have hasked : ∀ {turn : Turn α}, turn.before = start → turn.Asks handle signal →
      [turn].filterMap Turn.asks? = [(handle, signal)] ∧
        start.registry.listener? handle signal = none := by
    rintro turn rfl ha
    exact ⟨by simp [ha.asks?_eq], ha.listener?_eq⟩
  induction h with
  | asked hs ha => exact .inr (hasked hs ha)
  | decided _ hd => exact .inl (by simp [hd.asks?_eq])
  | answered hr hd ih =>
    rw [List.filterMap_cons_none hd.asks?_eq]
    exact ih
  | finished _ hh he ih => rwa [List.filterMap_cons_none (Turn.quiet_of_finished hh he).asks?_eq]
  | unwound _ hh he ih => rwa [List.filterMap_cons_none (Turn.quiet_of_unwound hh he).asks?_eq]

end Registering

/-! ## What registrations leave -/

/-- A registration was refused in its last round: it found a reason there, and changed nothing. -/
structure Refused (start : Process α) (handle : Handle) (span : List (Turn α)) (last : Turn α)
    (refusal : Refusal) : Prop where
  /-- This is the last round. -/
  newest : (rounds start.frames.length span).head? = some last
  /-- A shutdown is reported first, then the retirement of the handle. -/
  reason : last.before.registry.isShutDown = true ∧ refusal = .shutDown ∨
    last.before.registry.isShutDown = false ∧ last.before.registry.isRetired handle = true ∧
      refusal = .handleRetired handle
  /-- No turn of the registration changes the tables. -/
  unchanged {turn : Turn α} : turn ∈ ownTurns start.frames.length span →
    turn.after.registry = turn.before.registry
  /-- If it has connected a listener, it has disconnected it, once. -/
  disconnections_eq : disconnections (ownTurns start.frames.length span) =
    (connections (ownTurns start.frames.length span)).map Prod.fst

/-- A subscriber is the last one of its pair, under the next name, and nothing else is new. -/
structure Enrols (before after : Registry α) (handle : Handle) (signal : Signal)
    (callback : Callback α) (id : SubscriptionId) : Prop where
  /-- The name is the next one. -/
  id_eq : id = before.nextId
  /-- It is used up. -/
  nextSubscription_eq : after.nextSubscription = before.nextSubscription + 1
  /-- The subscriber comes after those that its pair had. -/
  subscribersOf_eq (other : Handle) (kind : Signal) : after.subscribersOf other kind =
    before.subscribersOf other kind ++
      if other = handle ∧ kind = signal then [⟨id, callback⟩] else []
  /-- It is the only one of its name. -/
  count_eq_one : after.subscriberIds.count id = 1
  /-- It has a row. -/
  subscriptions_eq : after.subscriptions = before.subscriptions.insert id (handle, signal)
  /-- No handle is retired or announced. -/
  retired_eq : after.retired = before.retired
  /-- The registry stays open. -/
  isShutDown_eq : after.isShutDown = before.isShutDown

/-- A native listener is the one that is installed for a pair. -/
def Listens (registry : Registry α) (token : Token) (handle : Handle) (signal : Signal) : Prop :=
  registry.target? token = some (handle, signal) ∧
    ∃ listener, registry.listener? handle signal = some listener ∧ listener.token = token

/-- A registration was accepted in its last round: it enrolled its subscriber there, and it has no
use for another listener than that of the pair. -/
structure Accepted (start : Process α) (handle : Handle) (signal : Signal) (callback : Callback α)
    (span : List (Turn α)) (finish : Process α) (last : Turn α) (id : SubscriptionId) : Prop where
  /-- This is the last round. -/
  newest : (rounds start.frames.length span).head? = some last
  /-- It enrols the subscriber. -/
  enrols : Enrols last.before.registry last.after.registry handle signal callback id
  /-- The other turns of the registration leave the tables as they are. -/
  others {turn : Turn α} : turn ∈ ownTurns start.frames.length span → turn ≠ last →
    turn.after.registry = turn.before.registry
  /-- A listener that it has connected is that of the pair, or it has disconnected it, once. -/
  connected {token : Token} :
    token ∈ (connections (ownTurns start.frames.length span)).map Prod.fst →
      last.after.registry.Listens token handle signal ∧
          disconnections (ownTurns start.frames.length span) = [] ∨
        disconnections (ownTurns start.frames.length span) = [token]
  /-- It has disconnected no other listener. -/
  disconnected {token : Token} : token ∈ disconnections (ownTurns start.frames.length span) →
    token ∈ (connections (ownTurns start.frames.length span)).map Prod.fst
  /-- If it has disconnected none, it returns in this round. -/
  finish_eq : disconnections (ownTurns start.frames.length span) = [] → finish = last.after

/-- **What a registration does**, whatever is called while it waits. -/
structure Registers (history : List (Turn α)) (start : Process α) (operation : Operation α)
    (handle : Handle) (signal : Signal) (callback : Callback α) : Prop where
  /-- It looks at the tables at most twice. -/
  length_rounds_le {span : List (Turn α)} {now : Process α} : Executing start operation span now →
    (rounds start.frames.length span).length ≤ 2
  /-- It asks at most once to connect a listener, for its pair. -/
  asks_eq {span : List (Turn α)} {now : Process α} : Executing start operation span now →
    (ownTurns start.frames.length span).filterMap Turn.asks? <+: [(handle, signal)]
  /-- It asks for none if the pair had a listener when it was called. -/
  asks_eq_nil {span : List (Turn α)} {now : Process α} : Executing start operation span now →
    (start.registry.listener? handle signal).isSome →
      (ownTurns start.frames.length span).filterMap Turn.asks? = []
  /-- When it returns, it was refused or accepted. -/
  returned {span : List (Turn α)} {finish : Process α} {reply : Reply} :
    Returns start operation span finish reply →
      (∃ last refusal, reply = .refused refusal ∧ Refused start handle span last refusal) ∨
        ∃ last id, reply = .subscribed id ∧
          Accepted start handle signal callback span finish last id
  /-- A listener that it has disconnected was disconnected once, by then and ever after. -/
  disconnected_once {span later : List (Turn α)} {now last : Process α} :
    Executing start operation span now → Run now later last →
      FreshTokens (later ++ (span ++ history)) →
      ∀ token ∈ disconnections (ownTurns start.frames.length span),
        (disconnections (later ++ (span ++ history))).count token = 1
  /-- It comes to an end by returning, unless it is given up. -/
  ended {span : List (Turn α)} {now : Process α} : Executing start operation span now →
    now.frames.length ≤ start.frames.length →
      (∃ turn ∈ span.head?, turn.happening = .unwound) ∨
        ∃ reply, Returns start operation span now reply
  /-- Until then what waits can be answered. -/
  answerable {span : List (Turn α)} {now : Process α} : Executing start operation span now →
    start.frames.length < now.frames.length →
      ∃ move outcome after, now.Turns (.moved move outcome) after ∧
        ¬ (Happening.moved move outcome).IsCall
  /-- It does come to an end, unless the environment calls again and again. -/
  exists_call {turns : ℕ → Turn α} :
    (∀ n, Executing start operation (record turns n) (turns n).after) →
      ∀ n, ∃ m, n ≤ m ∧ (turns m).happening.IsCall

section Verdicts

variable {registry after : Registry α} {connected vain : Option Token} {id : SubscriptionId}

/-- The only subscriber of its name. -/
lemma Coherent.count_subscriberIds (c : Coherent registry) {subscriber : Subscriber α}
    (hm : subscriber ∈ registry.subscribersOf handle signal) :
    registry.subscriberIds.count subscriber.id = 1 := by
  refine List.count_eq_one_of_mem c.subscriberIds_nodup ?_
  unfold subscribersOf at hm
  split at hm
  · rename_i listener hl
    have hmem : listener ∈ registry.listeners.toList.flatMap Prod.snd :=
      mem_fst_clear.2 ⟨handle, (mem_of_listener? hl).1⟩
    exact List.mem_flatMap.2 ⟨listener, hmem, List.mem_map_of_mem hm⟩
  · cases hm

/-- A decision is for a refusal or for a subscriber. -/
lemma Verdict.refused_or_subscribed {reply : Reply}
    (h : Verdict registry handle signal callback connected after reply vain) :
    (∃ refusal, reply = .refused refusal) ∨ ∃ id, reply = .subscribed id := by
  cases h with
  | refused _ => exact .inl ⟨_, rfl⟩
  | appended _ _ => exact .inr ⟨_, rfl⟩
  | installed _ _ _ => exact .inr ⟨_, rfl⟩

/-- A decision for a refusal. -/
lemma Verdict.of_refused {refusal : Refusal}
    (h : Verdict registry handle signal callback connected after (.refused refusal) vain) :
    registry.check handle = .error refusal ∧ after = registry ∧ vain = connected := by
  cases h with
  | refused hc => exact ⟨hc, rfl, rfl⟩

/-- A decision for a subscriber. -/
lemma Verdict.enrols (c : Coherent registry)
    (h : Verdict registry handle signal callback connected after (.subscribed id) vain) :
    Enrols registry after handle signal callback id := by
  cases h with
  | appended hc ha =>
    obtain ⟨hretired, hshut, hnext, hrows, -⟩ := marks_append ha
    have hs := subscribersOf_append ha
    have hm : ⟨registry.nextId, callback⟩ ∈ after.subscribersOf handle signal := by simp [hs]
    exact ⟨rfl, hnext, hs, (c.append hc ha).count_subscriberIds hm, hrows, hretired, hshut⟩
  | @installed token hc ha _ =>
    have hs := subscribersOf_install ha token
    have hm : ⟨registry.nextId, callback⟩ ∈
        (registry.install handle signal token callback).subscribersOf handle signal := by simp [hs]
    exact ⟨rfl, rfl, hs, (c.install hc ha token).count_subscriberIds hm, rfl, rfl, rfl⟩

/-- The listener that was connected is installed or was connected in vain. -/
lemma Verdict.listens_or (c : Coherent registry)
    (h : Verdict registry handle signal callback connected after (.subscribed id) vain) :
    vain = connected ∨
      vain = none ∧ ∀ token ∈ connected, after.Listens token handle signal := by
  cases h with
  | appended hc ha => exact .inl rfl
  | @installed token hc ha hconnected =>
    refine .inr ⟨rfl, fun other hm => ?_⟩
    obtain rfl : other = token := Option.some.inj (hm.symm.trans hconnected)
    have hl : ⟨signal, other, [⟨registry.nextId, callback⟩]⟩ ∈
        (registry.install handle signal other callback).listenersOf handle := by
      simp [listenersOf_install]
    have c' := c.install hc ha other
    have hfound := listener?_of_mem (c'.signals_nodup handle) hl
    exact ⟨by rw [target?_install, if_pos rfl], _, hfound, rfl⟩

end Verdicts

/-- Where a registration stands when it has come to an end. -/
lemma Executing.registering_of_ended
    (ho : operation.registration? = some (handle, signal, callback))
    (h : Executing start operation span now) (hle : now.frames.length ≤ start.frames.length) :
    now.frames = start.frames ∧
      ((∃ reply, Registering start handle signal callback (ownTurns start.frames.length span)
          (.returned reply)) ∨
        Registering start handle signal callback (ownTurns start.frames.length span) .unwound) := by
  obtain ⟨phase, hr, hf⟩ := h.registering ho
  cases phase with
  | connecting =>
    obtain ⟨inner, hf⟩ := hf
    rw [hf, List.length_append, List.length_cons] at hle
    omega
  | releasing reply =>
    obtain ⟨inner, hf⟩ := hf
    rw [hf, List.length_append, List.length_cons] at hle
    omega
  | returned reply => exact ⟨hf, .inl ⟨reply, hr⟩⟩
  | unwound => exact ⟨hf, .inr hr⟩

/-- When it has returned, a registration has decided for its reply. -/
lemma Returns.exists_decided {finish : Process α} {reply : Reply}
    (ho : operation.registration? = some (handle, signal, callback))
    (h : Returns start operation span finish reply) :
    ∃ last connected vain, Decided (ownTurns start.frames.length span) handle signal callback last
      connected reply vain := by
  have hle : finish.frames.length ≤ start.frames.length := (congrArg List.length h.frames_eq).le
  obtain ⟨turn, hm, move, ht⟩ := h.answered
  rw [← h.executing.head?_ownTurns hle] at hm
  obtain ⟨-, ⟨other, hr⟩ | hr⟩ := h.executing.registering_of_ended ho hle
  · obtain ⟨turn', hm', move', ht'⟩ := hr.exists_answer
    obtain rfl := Option.mem_unique hm hm'
    rw [ht] at ht'
    cases ht'
    exact hr.exists_decided
  · obtain ⟨turn', hm', ht'⟩ := hr.exists_unwound
    obtain rfl := Option.mem_unique hm hm'
    rw [ht] at ht'
    cases ht'

section Decisions

variable {history : List (Turn α)} {finish : Process α} {last : Turn α}
  {connected vain : Option Token}

/-- The round that decides is one of the turns. -/
lemma Decided.mem_span {reply : Reply} {depth : ℕ}
    (d : Decided (ownTurns depth span) handle signal callback last connected reply vain) :
    last ∈ span :=
  List.mem_of_mem_filter (List.mem_of_mem_filter (List.mem_of_mem_head? d.newest))

/-- A decision for a refusal leaves nothing. -/
lemma Decided.refused {refusal : Refusal}
    (d : Decided (ownTurns start.frames.length span) handle signal callback last connected
      (.refused refusal) vain) : Refused start handle span last refusal := by
  obtain ⟨hc, he, rfl⟩ := d.decides.verdict.of_refused
  refine ⟨d.newest, ?_, fun {turn} hm => ?_, d.disconnections_eq.trans d.connections_eq.symm⟩
  · unfold check at hc
    split at hc <;> rename_i hs
    · exact .inl ⟨hs, (Except.error.inj hc).symm⟩
    · split at hc <;> rename_i hr
      · exact .inr ⟨Bool.eq_false_iff.2 hs, hr, (Except.error.inj hc).symm⟩
      · cases hc
  · by_cases hl : turn = last
    · rw [hl, he]
    · exact d.others hm hl

/-- A decision for a subscriber enrols it. -/
lemma Decided.accepted {id : SubscriptionId} (h : Run .initial history start)
    (hr : Run start span finish) (hhead : (ownTurns start.frames.length span).head? = span.head?)
    (d : Decided (ownTurns start.frames.length span) handle signal callback last connected
      (.subscribed id) vain) : Accepted start handle signal callback span finish last id := by
  obtain ⟨earlier, -, hbefore, -⟩ := hr.exists_turns_of_mem d.mem_span
  have c := (h.append hbefore).coherent
  have hv := d.decides.verdict
  refine ⟨d.newest, hv.enrols c, d.others, fun {token} hm => ?_, fun {token} hm => ?_, fun hn => ?_⟩
  · rw [d.connections_eq, Option.mem_toList] at hm
    rw [d.disconnections_eq]
    rcases hv.listens_or c with rfl | ⟨rfl, hl⟩
    · exact .inr (by rw [Option.mem_def.1 hm]; rfl)
    · exact .inl ⟨hl token hm, rfl⟩
  · rw [d.disconnections_eq] at hm
    rw [d.connections_eq]
    rcases hv.listens_or c with rfl | ⟨rfl, -⟩
    · exact hm
    · cases hm
  · have hnone : vain = none := by
      rw [d.disconnections_eq] at hn
      exact Option.toList_eq_nil_iff.1 hn
    have hnewest := hhead.symm.trans (d.head?_eq hnone)
    obtain ⟨earlier, rfl⟩ := List.head?_eq_some_iff.1 hnewest
    exact hr.of_cons.2.2.symm

end Decisions

/-- **Every registration is atomic, and takes at most two rounds**, in every state and whatever the
environment does while it connects or disconnects a native listener.

**Proof sketch.** The turns of the registration itself follow a grammar (`Executing.registering`):
a round that asks for a listener, a round that decides, a turn after the listener was disconnected.
Only the round that decides changes the tables, and what it decides depends on the tables that it
finds. -/
theorem registers_of_run {history : List (Turn α)} {start : Process α} {operation : Operation α}
    {handle : Handle} {signal : Signal} {callback : Callback α} (h : Run .initial history start)
    (ho : operation.registration? = some (handle, signal, callback)) :
    Registers history start operation handle signal callback where
  length_rounds_le he := by
    obtain ⟨phase, hr, -⟩ := he.registering ho
    exact hr.length_rounds_le
  asks_eq he := by
    obtain ⟨phase, hr, -⟩ := he.registering ho
    rcases hr.asks_eq with ha | ⟨ha, -⟩ <;> rw [ha]
    exact List.nil_prefix
  asks_eq_nil he hl := by
    obtain ⟨phase, hr, -⟩ := he.registering ho
    rcases hr.asks_eq with ha | ⟨-, hn⟩
    · exact ha
    · rw [hn] at hl
      cases hl
  returned := by
    intro span finish reply hr
    obtain ⟨last, connected, vain, d⟩ := hr.exists_decided ho
    have hhead := hr.executing.head?_ownTurns (congrArg List.length hr.frames_eq).le
    rcases d.decides.verdict.refused_or_subscribed with ⟨refusal, rfl⟩ | ⟨id, rfl⟩
    · exact .inl ⟨last, refusal, rfl, d.refused⟩
    · exact .inr ⟨last, id, rfl, d.accepted h hr.executing.run hhead⟩
  disconnected_once he hl hf token ht := by
    have hbalanced := ((h.append he.run).append hl).balanced hf
    refine List.count_eq_one_of_mem (hbalanced.disconnections_nodup hf) ?_
    obtain ⟨turn, hm, hd⟩ := List.mem_flatMap.1 ht
    refine List.mem_flatMap.2 ⟨turn, ?_, hd⟩
    exact List.mem_append_right _ (List.mem_append_left _ (List.mem_of_mem_filter hm))
  ended he hle := by
    have hhead := he.head?_ownTurns hle
    obtain ⟨hf, ⟨reply, hr⟩ | hr⟩ := he.registering_of_ended ho hle
    · exact .inr ⟨reply, he, hf, hhead ▸ hr.exists_answer⟩
    · exact .inl (hhead ▸ hr.exists_unwound)
  answerable _ hlt := by
    obtain ⟨frame, frames, hf⟩ := List.exists_cons_of_length_pos (Nat.zero_lt_of_lt hlt)
    exact Process.exists_answer hf
  exists_call he n := by
    obtain ⟨m, hm, hcall⟩ := exists_call_of_endless (turns_of_record fun n => (he n).run) n
    exact ⟨m + 1, hm.trans (Nat.le_succ m), hcall⟩

/-- Moves of a registration whose pair gets a listener while its own is being connected. -/
def overtaken (handle : Handle) (signal : Signal) : List (Move ℕ) :=
  [.call (.register handle signal 1), .call (.register handle signal 2), .connected ⟨1⟩,
    .connected ⟨2⟩, .finished]

/-- A registration that is overtaken comes second, and its listener is disconnected. -/
theorem registers_of_run_overtaken :
    let run := play .initial (overtaken ⟨16⟩ .frame)
    Returns .initial (.register ⟨16⟩ .frame 1) run.1 run.2 (.subscribed ⟨1⟩) ∧
      (∃ last, Accepted .initial ⟨16⟩ .frame (.run 1) run.1 run.2 last ⟨1⟩) ∧
      (rounds 0 run.1).length = 2 ∧ (disconnections run.1).count ⟨2⟩ = 1 ∧
      run.2.registry.callbacks ⟨16⟩ .frame = [.run 2, .run 1] := by
  intro run
  have hrun : Run .initial [] (Process.initial : Process ℕ) := .nil
  have hregisters : Registers [] .initial (.register ⟨16⟩ .frame 1) ⟨16⟩ .frame (.run 1) :=
    registers_of_run hrun rfl
  have he : Executing .initial (.register ⟨16⟩ .frame 1) run.1 run.2 :=
    executing_play (by decide +kernel)
  have hreturns : Returns .initial (.register ⟨16⟩ .frame 1) run.1 run.2 (.subscribed ⟨1⟩) :=
    ⟨he, rfl, _, rfl, _, rfl⟩
  have hd : (⟨2⟩ : Token) ∈ disconnections (ownTurns 0 run.1) := by decide +kernel
  have hf : FreshTokens ([] ++ (run.1 ++ [])) := by decide +kernel
  have honce := hregisters.disconnected_once he .nil hf _ hd
  rw [List.nil_append, List.append_nil] at honce
  obtain ⟨last, refusal, hn, -⟩ | ⟨last, id, hid, haccepted⟩ := hregisters.returned hreturns
  · cases hn
  · cases hid
    exact ⟨hreturns, ⟨last, haccepted⟩, by decide +kernel, honce, by decide +kernel⟩

end Compositor.Registry
