import Compositor.Proofs.Registry.Mirroring
import Mathlib.Order.Monotone.Basic

set_option autoImplicit false

/-!
# Handles do not interfere

Carry out acts on any number of handles, and then only those among them that concern one handle. What
is seen of the latter is the same both times, but for the numbers that the registry and the native
side give: the actions that are run and their order, also if one of them unwinds, the counts, the
refusals and every query. The numbers are in the same order.

The renaming is found first. The acts on the handle take certain numbers from each counter of the
longer run, in increasing order, and the shorter run takes `0, 1, 2, …` instead; so there is an
increasing function from these to those.

## Main definitions

* `ticks` — the numbers that the acts on a handle take from a counter.
* `spread` — an increasing function that begins with given numbers.
* `Renaming.Numbers` — a renaming that keeps the order of names and of native listeners.
* `Abreast` — a longer and a shorter run between two acts.

## Main results

* `Abreast.conduct` — the same is seen of the handle from there on.
* `conduct_filter` — leaving out the acts on other handles changes nothing but numbers.
-/

namespace Compositor.Registry

variable {α : Type}

/-! ## Numbers -/

/-- The numbers that the acts on a handle take from a counter. -/
def ticks (counter : Stage α → ℕ) (choose : ℕ → Token) (handle : Handle) :
    Stage α → List (Act α) → List ℕ
  | _, [] => []
  | stage, act :: acts =>
    let next := (perform choose stage act).1
    (if act.handle = handle ∧ counter stage < counter next then [counter stage] else []) ++
      ticks counter choose handle next acts

/-- A function gives the numbers in turn, from some argument on. -/
def Fits (f : ℕ → ℕ) (start : ℕ) (numbers : List ℕ) : Prop :=
  ∀ i n, numbers[i]? = some n → f (start + i) = n

/-- The increasing function that begins with given numbers. -/
def spread (numbers : List ℕ) (i : ℕ) : ℕ :=
  numbers[i]?.getD (numbers.getLast?.getD 0 + i + 1)

/-- What gives the numbers in turn gives the first one, and then the others. -/
lemma fits_cons {f : ℕ → ℕ} {start n : ℕ} {numbers : List ℕ} (h : Fits f start (n :: numbers)) :
    f start = n ∧ Fits f (start + 1) numbers := by
  refine ⟨h 0 n rfl, fun i k hk => ?_⟩
  rw [Nat.add_right_comm, Nat.add_assoc]
  exact h (i + 1) k hk

/-- The spread of some numbers begins with them. -/
lemma fits_spread (numbers : List ℕ) : Fits (spread numbers) 0 numbers := by
  intro i n hn
  rw [Nat.zero_add, spread, hn, Option.getD_some]

/-- Increasing numbers are spread to an increasing function. -/
lemma strictMono_spread {numbers : List ℕ} (h : numbers.Pairwise (· < ·)) :
    StrictMono (spread numbers) := by
  refine strictMono_nat_of_lt_succ fun i => ?_
  unfold spread
  cases hi : numbers[i]? with
  | none =>
    have hlen := List.getElem?_eq_none_iff.1 hi
    rw [List.getElem?_eq_none (Nat.le_succ_of_le hlen), Option.getD_none, Option.getD_none]
    omega
  | some n =>
    obtain ⟨hlt, rfl⟩ := List.getElem?_eq_some_iff.1 hi
    cases hs : numbers[i + 1]? with
    | none =>
      have hlen := List.getElem?_eq_none_iff.1 hs
      have hlast : numbers.getLast? = some numbers[i] := by
        rw [List.getLast?_eq_getElem?, ← hi]
        congr 1
        omega
      rw [hlast, Option.getD_some, Option.getD_none, Option.getD_some]
      omega
    | some next =>
      obtain ⟨hlt', rfl⟩ := List.getElem?_eq_some_iff.1 hs
      exact List.pairwise_iff_getElem.1 h i (i + 1) hlt hlt' (Nat.lt_succ_self i)

section Ticks

variable {counter : Stage α → ℕ} {choose : ℕ → Token} {handle : Handle} {f : ℕ → ℕ}
  {start : ℕ} {stage : Stage α} {act : Act α} {acts : List (Act α)}

/-- The acts on other handles take nothing that counts. -/
lemma ticks_skip (hact : act.handle ≠ handle) :
    ticks counter choose handle stage (act :: acts) =
      ticks counter choose handle (perform choose stage act).1 acts := by
  rw [ticks, if_neg fun h => hact h.1, List.nil_append]

/-- An act on the handle takes the number of the counter if it counts up, and the next numbers are
taken by later acts. -/
lemma fits_ticks (hact : act.handle = handle)
    (h : Fits f start (ticks counter choose handle stage (act :: acts))) {next : ℕ}
    (hs : Steps (counter stage) (counter (perform choose stage act).1) start next) :
    Fits f next (ticks counter choose handle (perform choose stage act).1 acts) := by
  rw [ticks] at h
  rcases hs with ⟨hsame, rfl⟩ | ⟨hnext, rfl⟩
  · rwa [if_neg fun hlt => hlt.2.ne' hsame] at h
  · rw [if_pos ⟨hact, hnext ▸ Nat.lt_succ_self _⟩] at h
    exact (fits_cons h).2

/-- An act on the handle that counts up takes the number of the counter. -/
lemma eq_of_fits_ticks (hact : act.handle = handle)
    (h : Fits f start (ticks counter choose handle stage (act :: acts)))
    (hlt : counter stage < counter (perform choose stage act).1) : f start = counter stage := by
  rw [ticks, if_pos ⟨hact, hlt⟩] at h
  exact (fits_cons h).1

/-- What the acts take from a counter that counts up is increasing. -/
lemma pairwise_ticks
    (hc : ∀ {stage : Stage α} act, Stage.Sound stage →
      counter stage ≤ counter (perform choose stage act).1)
    (handle : Handle) (s : Stage.Sound stage) (acts : List (Act α)) :
    (∀ n ∈ ticks counter choose handle stage acts, counter stage ≤ n) ∧
      (ticks counter choose handle stage acts).Pairwise (· < ·) := by
  induction acts generalizing stage with
  | nil => exact ⟨nofun, List.Pairwise.nil⟩
  | cons act acts ih =>
    obtain ⟨hle, hpairwise⟩ := ih (s.perform choose act)
    have hnext := hc act s
    rw [ticks]
    split
    · rename_i htick
      refine ⟨?_, List.pairwise_cons.2 ⟨fun n hn => ?_, hpairwise⟩⟩
      · rintro n (_ | ⟨_, hn⟩)
        · exact le_rfl
        · exact hnext.trans (hle n hn)
      · exact htick.2.trans_le (hle n hn)
    · exact ⟨fun n hn => hnext.trans (hle n hn), hpairwise⟩

end Ticks

/-! ## Leaving out the acts on other handles -/

/-- A renaming that keeps the order: subscribers are numbered anew by `ids`, and native listeners, in
the order in which they were connected, by `connections`. -/
structure Renaming.Numbers (names : Renaming) (ids connections : ℕ → ℕ)
    (fullChoose keptChoose : ℕ → Token) : Prop where
  /-- Later subscribers stay later. -/
  ids_strictMono : StrictMono ids
  /-- Later native listeners stay later. -/
  connections_strictMono : StrictMono connections
  /-- The new name of the `n`-th subscriber. -/
  ids_eq (n : ℕ) : names.ids ⟨n⟩ = ⟨ids n⟩
  /-- The new token of the `n`-th native listener. -/
  tokens_eq (n : ℕ) : names.tokens (keptChoose n) = fullChoose (connections n)

/-- The renaming with given numbers. Tokens that are not chosen are not renamed. -/
noncomputable def Renaming.numbered (ids connections : ℕ → ℕ) (fullChoose keptChoose : ℕ → Token) :
    Renaming where
  ids id := ⟨ids id.number⟩
  tokens := Function.extend keptChoose (fun n => fullChoose (connections n)) id

namespace Renaming.Numbers

variable {names : Renaming} {ids connections : ℕ → ℕ} {fullChoose keptChoose : ℕ → Token}

/-- Increasing numbers give a renaming that keeps the order, if the tokens are fresh. -/
lemma numbered (fullChoose : ℕ → Token) (hi : StrictMono ids) (hc : StrictMono connections)
    (hkept : Function.Injective keptChoose) :
    (Renaming.numbered ids connections fullChoose keptChoose).Numbers ids connections fullChoose
      keptChoose where
  ids_strictMono := hi
  connections_strictMono := hc
  ids_eq _ := rfl
  tokens_eq n := hkept.extend_apply (fun n => fullChoose (connections n)) id n

/-- A renaming with increasing numbers keeps names apart. -/
lemma ids_injective (h : names.Numbers ids connections fullChoose keptChoose) :
    Function.Injective names.ids := by
  rintro ⟨first⟩ ⟨second⟩ he
  rw [h.ids_eq, h.ids_eq] at he
  rw [h.ids_strictMono.injective (congrArg SubscriptionId.number he)]

/-- A renaming with increasing numbers keeps the chosen tokens apart, if the new ones are fresh. -/
lemma tokens_injOn (h : names.Numbers ids connections fullChoose keptChoose)
    (hf : Function.Injective fullChoose) : Set.InjOn names.tokens (Set.range keptChoose) := by
  rintro _ ⟨first, rfl⟩ _ ⟨second, rfl⟩ he
  rw [h.tokens_eq, h.tokens_eq] at he
  rw [h.connections_strictMono.injective (hf he)]

end Renaming.Numbers

/-- Native listeners can be told apart by their tokens, in both of two runs. -/
structure Fresh (fullChoose keptChoose : ℕ → Token) (full kept : Stage α) : Prop where
  /-- No token is chosen twice in the longer run. -/
  full_injective : Function.Injective fullChoose
  /-- No token is chosen twice in the shorter run. -/
  kept_injective : Function.Injective keptChoose
  /-- The native listeners of the longer run belong to their handles. -/
  full_plugged : Stage.Plugged fullChoose full
  /-- The native listeners of the shorter run belong to their handles. -/
  kept_plugged : Stage.Plugged keptChoose kept

namespace Fresh

variable {fullChoose keptChoose : ℕ → Token} {full kept : Stage α}

/-- They still can after an act of the longer run. -/
lemma perform_full (f : Fresh fullChoose keptChoose full kept) (s : Stage.Sound full)
    (act : Act α) : Fresh fullChoose keptChoose (perform fullChoose full act).1 kept :=
  { f with full_plugged := f.full_plugged.perform s f.full_injective act }

/-- They still can after an act of the shorter run. -/
lemma perform_kept (f : Fresh fullChoose keptChoose full kept) (s : Stage.Sound kept)
    (act : Act α) : Fresh fullChoose keptChoose full (perform keptChoose kept act).1 :=
  { f with kept_plugged := f.kept_plugged.perform s f.kept_injective act }

end Fresh

/-- A longer and a shorter run before the remaining acts of the longer one: they tell the same of the
handle, and the renaming fits what these acts will take from the counters. -/
structure Abreast (names : Renaming) (ids connections : ℕ → ℕ) (fullChoose keptChoose : ℕ → Token)
    (handle : Handle) (acts : List (Act α)) (full kept : Stage α) : Prop where
  /-- The stages tell the same of the handle. -/
  mirrors : Stage.Mirrors names handle full kept
  /-- The longer run is sound. -/
  full_sound : Stage.Sound full
  /-- The shorter run is sound. -/
  kept_sound : Stage.Sound kept
  /-- If native listeners will be fired, they can be told apart. -/
  fresh : (∃ act ∈ acts, act.fires = true) → Fresh fullChoose keptChoose full kept
  /-- The new names are those that the acts will take. -/
  fits_ids : Fits ids kept.registry.nextSubscription
    (ticks (fun stage => stage.registry.nextSubscription) fullChoose handle full acts)
  /-- The new native listeners are those that the acts will take. -/
  fits_connections : Fits connections kept.chosen
    (ticks Stage.chosen fullChoose handle full acts)

namespace Abreast

variable {names : Renaming} {ids connections : ℕ → ℕ} {fullChoose keptChoose : ℕ → Token}
  {handle : Handle} {act : Act α} {acts : List (Act α)} {full kept : Stage α}

/-- Only the longer run carries out an act on another handle. -/
lemma skip (a : Abreast names ids connections fullChoose keptChoose handle (act :: acts) full kept)
    (hact : act.handle ≠ handle) :
    Abreast names ids connections fullChoose keptChoose handle acts
      (Registry.perform fullChoose full act).1 kept where
  mirrors := a.mirrors.skip a.full_sound
    (fun h => (a.fresh ⟨act, List.mem_cons_self, h⟩).full_plugged) hact.symm
  full_sound := a.full_sound.perform fullChoose act
  kept_sound := a.kept_sound
  fresh := by
    rintro ⟨later, hm, hl⟩
    exact (a.fresh ⟨later, List.mem_cons_of_mem _ hm, hl⟩).perform_full a.full_sound act
  fits_ids := ticks_skip hact ▸ a.fits_ids
  fits_connections := ticks_skip hact ▸ a.fits_connections

/-- Both runs carry out an act on the handle, of which the same is seen. -/
lemma perform
    (a : Abreast names ids connections fullChoose keptChoose handle (act :: acts) full kept)
    (hn : names.Numbers ids connections fullChoose keptChoose) (hact : act.handle = handle) :
    (Registry.perform fullChoose full act).2 =
        (Registry.perform keptChoose kept act).2.map (Sight.rename names) ∧
      Abreast names ids connections fullChoose keptChoose handle acts
        (Registry.perform fullChoose full act).1 (Registry.perform keptChoose kept act).1 := by
  have hfull : (Registry.perform fullChoose full act).1 = full.follow act
      (act.done fullChoose full.registry full.chosen (full.notes handle)) := by
    rw [perform_eq, hact]
  have hkept : (Registry.perform keptChoose kept act).1 = kept.follow act
      (act.done keptChoose kept.registry kept.chosen (kept.notes handle)) := by
    rw [perform_eq, hact]
  -- what the act takes from the counters is next in the numbers that the renaming fits
  have d := a.mirrors.done a.full_sound a.kept_sound hn.ids_injective act hact
    (fun h => by
      have hfresh := a.fresh ⟨act, List.mem_cons_self, h⟩
      exact ⟨hfresh.full_plugged, hfresh.kept_plugged, hn.tokens_injOn hfresh.full_injective⟩)
    (fun hlt => (hn.ids_eq _).trans
      (congrArg SubscriptionId.mk (eq_of_fits_ticks hact a.fits_ids (hfull ▸ hlt))))
    (fun hlt => (hn.tokens_eq _).trans
      (congrArg fullChoose (eq_of_fits_ticks hact a.fits_connections (hfull ▸ hlt))))
  obtain ⟨hsights, hmirrors⟩ := a.mirrors.perform hact d
  refine ⟨hsights, ?_⟩
  exact {
    mirrors := hmirrors
    full_sound := a.full_sound.perform fullChoose act
    kept_sound := a.kept_sound.perform keptChoose act
    fresh := by
      rintro ⟨later, hm, hl⟩
      have hfresh := a.fresh ⟨later, List.mem_cons_of_mem _ hm, hl⟩
      exact (hfresh.perform_full a.full_sound act).perform_kept a.kept_sound act
    fits_ids := fits_ticks hact a.fits_ids (hfull ▸ hkept ▸ d.next)
    fits_connections := fits_ticks hact a.fits_connections (hfull ▸ hkept ▸ d.chosen) }

/-- **From there on the same is seen of the handle.**

**Proof sketch.** Induction on the acts: one on another handle leaves the runs abreast (`skip`), and
so does one on the handle, of which the same is seen (`perform`). -/
theorem conduct (hn : names.Numbers ids connections fullChoose keptChoose)
    (a : Abreast names ids connections fullChoose keptChoose handle acts full kept) :
    (conduct fullChoose full acts).filter (fun seen => seen.1.handle = handle) =
      (conduct keptChoose kept (acts.filter fun act => act.handle = handle)).map
        fun seen => (seen.1, seen.2.map (Sight.rename names)) := by
  induction acts generalizing full kept with
  | nil => rfl
  | cons act acts ih =>
    by_cases hact : act.handle = handle
    · obtain ⟨hsights, hrest⟩ := a.perform hn hact
      simp only [Registry.conduct, List.filter_cons, decide_eq_true hact, if_true, List.map_cons,
        hsights, ih hrest]
    · simp only [Registry.conduct, List.filter_cons, decide_eq_false hact, Bool.false_eq_true,
        if_false]
      exact ih (a.skip hact)

end Abreast

/-- **Handles do not interfere.** Carry out acts on any number of handles, or only those on one
handle: the same is seen of the acts on the handle, up to a renaming that keeps the order of the
subscribers and of the native listeners.

**Proof sketch.** The subscribers and native listeners of the handle get the numbers that its acts
take from the counters of the longer run, and these numbers increase. With this renaming both runs
start abreast, and they stay so act by act (`Abreast.conduct`). -/
theorem conduct_filter (acts : List (Act α)) (handle : Handle) (fullChoose keptChoose : ℕ → Token)
    (hkept : Function.Injective keptChoose)
    (hfull : (∃ act ∈ acts, act.fires = true) → Function.Injective fullChoose) :
    ∃ (names : Renaming) (ids connections : ℕ → ℕ),
      names.Numbers ids connections fullChoose keptChoose ∧
        (conduct fullChoose .initial acts).filter (fun seen => seen.1.handle = handle) =
          (conduct keptChoose .initial (acts.filter fun act => act.handle = handle)).map
            fun seen => (seen.1, seen.2.map (Sight.rename names)) := by
  -- the numbers are those of the longer run, which does not depend on the renaming
  have hids : StrictMono (spread (ticks (fun stage => stage.registry.nextSubscription) fullChoose
      handle .initial acts)) :=
    strictMono_spread (pairwise_ticks
      (fun act s => (Stage.advance s.coherent fullChoose act).counters.1) handle .initial acts).2
  have hconnections : StrictMono (spread (ticks Stage.chosen fullChoose handle .initial acts)) :=
    strictMono_spread (pairwise_ticks
      (fun act s => (Stage.advance s.coherent fullChoose act).counters.2) handle .initial acts).2
  have hn := Renaming.Numbers.numbered fullChoose hids hconnections hkept
  refine ⟨_, _, _, hn, Abreast.conduct hn ?_⟩
  exact {
    mirrors := .initial _ handle
    full_sound := .initial
    kept_sound := .initial
    fresh := fun h => ⟨hfull h, hkept, .initial _, .initial _⟩
    fits_ids := fits_spread _
    fits_connections := fits_spread _ }

/-- Acts on two handles in turn: both have a subscriber at first, that of the second handle unwinds
once, and the second handle is destroyed. -/
def meeting (first second : Handle) : List (Act String) :=
  [.register first 0 .commit "first", .register second 0 .commit "second",
    .track second 1 .destroy, .fire second 0 .empty none, .dispatch second .commit .empty (some 0),
    .unsubscribe first 0, .unsubscribe second 0, .dispatch second .destroy .empty none,
    .register second 2 .commit "late"]

/-- What is seen of the second handle when the first one is dealt with, too. -/
theorem conduct_filter_meeting :
    Function.Injective Token.mk ∧ (∃ act ∈ meeting ⟨16⟩ ⟨32⟩, act.fires = true) ∧
      ∃ (names : Renaming) (ids connections : ℕ → ℕ),
        names.Numbers ids connections Token.mk Token.mk ∧
          ((conduct Token.mk .initial (meeting ⟨16⟩ ⟨32⟩)).filter
              fun seen => seen.1.handle = ⟨32⟩).map Prod.snd =
            [[.connected ⟨32⟩ .commit (names.tokens ⟨0⟩), .replied (.subscribed (names.ids ⟨0⟩))],
              [.connected ⟨32⟩ .destroy (names.tokens ⟨1⟩), .replied (.subscribed (names.ids ⟨1⟩))],
              [.ran "second" .empty, .replied (.count 1)],
              [.ran "second" .empty, .unwound],
              [.disconnected (names.tokens ⟨0⟩), .replied (.truth true)],
              [.disconnected (names.tokens ⟨1⟩), .replied (.count 1)],
              [.replied (.refused (.handleRetired ⟨32⟩))]] := by
  have hinj : Function.Injective Token.mk := fun _ _ he => congrArg Token.number he
  have hfires : ∃ act ∈ meeting ⟨16⟩ ⟨32⟩, act.fires = true :=
    ⟨.fire ⟨32⟩ 0 .empty none, by simp [meeting], rfl⟩
  refine ⟨hinj, hfires, ?_⟩
  obtain ⟨names, ids, connections, hn, hseen⟩ :=
    conduct_filter (meeting ⟨16⟩ ⟨32⟩) ⟨32⟩ Token.mk Token.mk hinj fun _ => hinj
  refine ⟨names, ids, connections, hn, ?_⟩
  have hkept : (meeting ⟨16⟩ ⟨32⟩).filter (fun act => act.handle = ⟨32⟩) =
      [.register ⟨32⟩ 0 .commit "second", .track ⟨32⟩ 1 .destroy, .fire ⟨32⟩ 0 .empty none,
        .dispatch ⟨32⟩ .commit .empty (some 0), .unsubscribe ⟨32⟩ 0,
        .dispatch ⟨32⟩ .destroy .empty none, .register ⟨32⟩ 2 .commit "late"] := rfl
  rw [hseen, hkept]
  simp only [conduct, perform_eq]
  rfl

end Compositor.Registry
