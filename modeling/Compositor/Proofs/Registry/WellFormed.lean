import Compositor.Proofs.Registry.Ledger
import Compositor.Proofs.Registry.Retirement

set_option autoImplicit false

/-!
# Well-formed tables

The tables of a registry are well-formed whenever they are at rest, whatever the environment does
from within callbacks and while native listeners are connected and disconnected. The only thing it
must not do is to choose a token twice.

## Main definitions

* `WellFormed` — the tables agree with one another, and no name is used twice.
* `points` — the tables at all points of a history where they are at rest.

## Main results

* `wellFormed_of_mem_points` — the tables are well-formed at all these points, and a registry that
  is shut down stays so.
-/

namespace Compositor.Registry

variable {α : Type}

/-- The names of all subscribers. -/
def subscriberIds (registry : Registry α) : List SubscriptionId :=
  (registry.listeners.toList.flatMap Prod.snd).flatMap fun listener =>
    listener.subscribers.map Subscriber.id

/-- The tokens of all listeners. -/
def tokens (registry : Registry α) : List Token :=
  (registry.listeners.toList.flatMap Prod.snd).map Listener.token

/-- The tables agree with one another, and no name is used twice. -/
structure WellFormed (registry : Registry α) : Prop extends Coherent registry where
  /-- The index has just the tokens of the listeners, each with its handle and signal. -/
  indexed : Indexed registry
  /-- The listeners have distinct tokens. -/
  tokens_nodup : registry.tokens.Nodup
  /-- The subscribers have distinct names. -/
  subscriberIds_nodup : registry.subscriberIds.Nodup

/-- The tables at the points of a turn where they are at rest, newest first: after each retirement
and at the end. -/
def Turn.points (turn : Turn α) : List (Registry α) :=
  turn.after.registry :: (turn.retirements.map Prod.snd).reverse

/-- The tables at all points of a history where they are at rest, newest first. -/
def points : List (Turn α) → List (Registry α)
  | [] => [empty]
  | turn :: history => turn.points ++ points history

/-! ## Distinct names -/

/-- The subscribers of coherent tables have distinct names. -/
lemma Coherent.subscriberIds_nodup {registry : Registry α} (c : Coherent registry) :
    registry.subscriberIds.Nodup := by
  unfold subscriberIds
  rw [List.flatMap_assoc, List.nodup_flatMap]
  constructor
  · intro row hrow
    rw [← listenersOf_of_mem_toList hrow, List.nodup_flatMap]
    constructor
    · intro listener hl
      refine List.pairwise_map.2 ((c.ids_increasing hl).imp ?_)
      rintro first second hlt he
      rw [he] at hlt
      exact Nat.lt_irrefl _ hlt
    · -- a name that two listeners of the handle share would stand for two signals
      refine (List.pairwise_map.1 (c.signals_nodup row.1)).imp_of_mem ?_
      intro first second hf hs hne id hidf hids
      obtain ⟨subscriber, hx, rfl⟩ := List.mem_map.1 hidf
      obtain ⟨other, ho, hid⟩ := List.mem_map.1 hids
      exact hne (c.subscribed_unique ⟨first, hf, rfl, subscriber, hx, rfl⟩
        ⟨second, hs, rfl, other, ho, hid⟩).2
  · -- and a name that two handles share, for two handles
    refine registry.listeners.distinct_keys_toList.imp_of_mem ?_
    intro first second hf hs hne id hidf hids
    obtain ⟨listener, hl, hidf⟩ := List.mem_flatMap.1 hidf
    obtain ⟨subscriber, hx, rfl⟩ := List.mem_map.1 hidf
    obtain ⟨listener', hl', hids⟩ := List.mem_flatMap.1 hids
    obtain ⟨other, ho, hid⟩ := List.mem_map.1 hids
    rw [← listenersOf_of_mem_toList hf] at hl
    rw [← listenersOf_of_mem_toList hs] at hl'
    exact hne (Std.compare_eq_iff_eq.2 (c.subscribed_unique ⟨listener, hl, rfl, subscriber, hx, rfl⟩
      ⟨listener', hl', rfl, other, ho, hid⟩).1)

/-- Coherent tables whose tokens are indexed are well-formed. -/
lemma Coherent.wellFormed {registry : Registry α} (c : Coherent registry) (i : Indexed registry) :
    WellFormed registry :=
  { c with
    indexed := i
    tokens_nodup := i.tokens_clear_nodup c
    subscriberIds_nodup := c.subscriberIds_nodup }

/-! ## Retirements -/

/-- Retiring handles in turn keeps the tables well-formed and open or shut down as they are. -/
lemma WellFormed.retirements {registry : Registry α} (w : WellFormed registry)
    (callbacks : List (Callback α)) :
    ∀ entry ∈ registry.retirements callbacks,
      WellFormed entry.2 ∧ entry.2.isShutDown = registry.isShutDown := by
  induction callbacks generalizing registry with
  | nil => exact nofun
  | cons callback rest ih =>
    cases callback with
    | run action => exact nofun
    | retire handle =>
      have hw : WellFormed (registry.retire handle).2 :=
        (w.toCoherent.retire handle).wellFormed (w.indexed.retire handle)
      intro entry he
      rw [Registry.retirements, List.mem_cons] at he
      rcases he with rfl | he
      · exact ⟨hw, rfl⟩
      · split at he
        · exact ih hw entry he
        · cases he

/-- A change does not open a registry that is shut down. -/
lemma Change.isShutDown {before : Process α} {move : Move α} {released : List Token}
    {after : Registry α} (h : Change before move released after)
    (hs : before.registry.isShutDown = true) : after.isShutDown = true := by
  induction h with
  | keep => exact hs
  | append hc ha => rwa [(marks_append ha).2.1]
  | install _ hc ha => exact hs
  | retire handle _ ih => exact ih
  | take handle => exact hs
  | unsubscribe hu => rwa [(marks_unsubscribe hu).2.1]
  | revive handle => exact hs
  | clear _ => rfl

/-- A turn does not open a registry that is shut down. -/
lemma Process.Turns.isShutDown {before after : Process α} {happening : Happening α}
    (h : before.Turns happening after) (hs : before.registry.isShutDown = true) :
    after.registry.isShutDown = true := by
  cases happening with
  | moved move outcome =>
    obtain ⟨released, hchange, -⟩ := exists_change h
    exact hchange.isShutDown hs
  | unwound =>
    cases h
    exact hs

/-- At the points of a turn the tables are well-formed, and as shut down as before. -/
lemma WellFormed.turn_points {before after : Process α} {happening : Happening α}
    (w : WellFormed before.registry) (h : before.Turns happening after) :
    ∀ registry ∈ (Turn.mk before happening after).retirements.map Prod.snd,
      WellFormed registry ∧ registry.isShutDown = before.registry.isShutDown := by
  intro registry hm
  obtain ⟨entry, he, rfl⟩ := List.mem_map.1 hm
  rcases h.serves_or with ⟨callbacks, frames, event, total, hr, -⟩ | ⟨hr, -⟩
  · rw [hr] at he
    exact w.retirements callbacks entry he
  · rw [hr] at he
    cases he

namespace Run

variable {history : List (Turn α)} {process : Process α}

/-- The tables are well-formed after every run with fresh tokens. -/
lemma wellFormed (h : Run .initial history process) (hf : FreshTokens history) :
    WellFormed process.registry :=
  h.coherent.wellFormed (h.balanced hf).indexed

/-- A registry that is shut down at some point is shut down at the end. -/
lemma isShutDown_of_mem_points (h : Run .initial history process) (hf : FreshTokens history)
    {registry : Registry α} (hm : registry ∈ points history) (hs : registry.isShutDown = true) :
    process.registry.isShutDown = true := by
  induction h with
  | nil =>
    rw [points, List.mem_singleton] at hm
    rw [hm] at hs
    cases hs
  | @cons _ _ _ _ hr ht ih =>
    have hf' := hf.of_suffix (List.suffix_cons _ _)
    rw [points, List.mem_append] at hm
    rcases hm with hm | hm
    · rw [Turn.points, List.mem_cons, List.mem_reverse] at hm
      rcases hm with rfl | hm
      · exact hs
      · rw [((hr.wellFormed hf').turn_points ht registry hm).2] at hs
        exact ht.isShutDown hs
    · exact ht.isShutDown (ih hf' hm)

end Run

/-- **The tables are well-formed at every point where they are at rest**, in every run with fresh
tokens, and at every point after a shutdown the registry is shut down.

**Proof sketch.** Induction on the run. The tables before a turn are well-formed since the history
so far is that of a run, and so are those after it; retirements within the turn keep them so. -/
theorem wellFormed_of_mem_points {history : List (Turn α)} {process : Process α}
    (h : Run .initial history process) (hf : FreshTokens history) :
    (points history).head? = some process.registry ∧
    (∀ registry ∈ points history, WellFormed registry) ∧
      (points history).Pairwise fun later earlier =>
        earlier.isShutDown = true → later.isShutDown = true := by
  induction h with
  | nil =>
    refine ⟨rfl, fun registry hm => ?_, List.pairwise_singleton _ _⟩
    rw [points, List.mem_singleton] at hm
    rw [hm]
    exact Coherent.empty.wellFormed .empty
  | @cons _ before after _ hr ht ih =>
    have hf' := hf.of_suffix (List.suffix_cons _ _)
    obtain ⟨-, hwell, hpairwise⟩ := ih hf'
    have hturn := (hr.wellFormed hf').turn_points ht
    refine ⟨rfl, ?_, ?_⟩
    · intro registry hm
      rw [points, List.mem_append, Turn.points, List.mem_cons, List.mem_reverse] at hm
      rcases hm with (rfl | hm) | hm
      · exact (hr.cons ht).wellFormed hf
      · exact (hturn registry hm).1
      · exact hwell registry hm
    · rw [points, Turn.points, List.pairwise_append, List.pairwise_cons]
      refine ⟨⟨fun registry hm hs => ?_, ?_⟩, hpairwise, fun later hl earlier he hs => ?_⟩
      · rw [List.mem_reverse] at hm
        rw [(hturn registry hm).2] at hs
        exact ht.isShutDown hs
      · refine List.pairwise_of_forall_mem_list fun later hl earlier he hs => ?_
        rw [List.mem_reverse] at hl he
        rw [(hturn later hl).2, ← (hturn earlier he).2, hs]
      · have hbefore := hr.isShutDown_of_mem_points hf' he hs
        rw [List.mem_cons, List.mem_reverse] at hl
        rcases hl with rfl | hl
        · exact ht.isShutDown hbefore
        · rw [(hturn later hl).2, hbefore]

/-- The tables are well-formed while a handle is used again and the registry is shut down. -/
theorem wellFormed_of_mem_points_reuse :
    let run := play .initial (reuse ⟨16⟩ ++ [.call .shutdown, .finished])
    FreshTokens run.1 ∧ run.2.registry.isShutDown = true ∧
      ∀ registry ∈ points run.1, WellFormed registry := by
  intro run
  have hf : FreshTokens run.1 := by decide
  exact ⟨hf, by decide, (wellFormed_of_mem_points (run_play .initial _) hf).2.1⟩

end Compositor.Registry
