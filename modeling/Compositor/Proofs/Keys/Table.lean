import Compositor.KeyBindings
import Mathlib.Data.List.Basic
import Mathlib.Data.List.Induction
import Mathlib.Data.Nat.Bitwise
import Mathlib.Tactic.Common

set_option autoImplicit false

/-!
# The table of key bindings

A table is made by binding keysyms one after the other, and a keysym may be bound again. This module
says what a table holds and what is found in it, first entry by entry, and then in terms of the
whole sequence of bindings that made it. Each bound keysym has one entry, which stays at the place
where the keysym was first bound, and its action is that of the last binding.

## Main definitions

* `FlagSet.Includes` — bit by bit, whether a set of flags has all flags of another.
* `KeyBindings.Binds`, `KeyBindings.FirstBound` — the action of a keysym, and of a list of them.
* `KeyBindings.ofBindings` — the table that a sequence of bindings makes.
* `KeyBindings.LastBinds` — the last binding of a keysym in a sequence.
* `KeyBindings.InFirstOrder` — keysyms in the order in which they first occur.

## Main results

* `KeyBindings.lookup?_eq_some_iff` — what is found in a table.
* `KeyBindings.lookup?_bind` — what one more binding changes.
* `KeyBindings.ofBindings_finite_map` — what a sequence of bindings makes of a table.
-/

namespace Compositor

/-! ## Flags -/

/-- Every flag of `other` is in the set. -/
def FlagSet.Includes {family : FlagFamily} (flags other : FlagSet family) : Prop :=
  ∀ bit, other.bits.toNat.testBit bit = true → flags.bits.toNat.testBit bit = true

/-- The check of flags tells whether they include the others. -/
lemma FlagSet.contains_iff {family : FlagFamily} {flags other : FlagSet family} :
    flags.contains other = true ↔ flags.Includes other := by
  unfold contains Includes
  rw [beq_iff_eq, ← UInt32.toNat_inj, UInt32.toNat_and]
  constructor
  · intro h bit hb
    rw [← h, Nat.testBit_and, Bool.and_eq_true] at hb
    exact hb.1
  · intro h
    refine Nat.eq_of_testBit_eq fun bit => ?_
    rw [Nat.testBit_and]
    cases hb : other.bits.toNat.testBit bit with
    | false => rw [Bool.and_false]
    | true => rw [h bit hb, Bool.and_true]

namespace KeyBindings

variable {bindings : KeyBindings} {keysym : Keysym} {keysyms : List Keysym} {action other : Action}

/-! ## What is found -/

/-- A table binds a keysym to the action of the first entry that has it. -/
def Binds (bindings : KeyBindings) (keysym : Keysym) (action : Action) : Prop :=
  ∃ earlier later, bindings.entries = earlier ++ (keysym, action) :: later ∧
    ∀ entry ∈ earlier, entry.1 ≠ keysym

/-- The action of the first keysym of a list that is bound. -/
def FirstBound (bindings : KeyBindings) (keysyms : List Keysym) (action : Action) : Prop :=
  ∃ earlier keysym later, keysyms = earlier ++ keysym :: later ∧
    (∀ unbound ∈ earlier, ∀ other, ¬ bindings.Binds unbound other) ∧ bindings.Binds keysym action

/-- The accelerator is held just if the modifiers include it. -/
lemma acceleratorHeld_iff {held : Modifiers} :
    bindings.acceleratorHeld held = true ↔ held.Includes bindings.modifier :=
  FlagSet.contains_iff

/-- Nothing is found while the accelerator is not held. -/
lemma lookup?_of_not_includes {held : Modifiers} (h : ¬ held.Includes bindings.modifier)
    (keysym : Keysym) : bindings.lookup? held keysym = none := by
  rw [lookup?, if_neg (mt acceleratorHeld_iff.1 h)]

/-- **What is found in a table** while the accelerator is held is what the table binds. -/
theorem lookup?_eq_some_iff {held : Modifiers} (h : held.Includes bindings.modifier) :
    bindings.lookup? held keysym = some action ↔ bindings.Binds keysym action := by
  rw [lookup?, if_pos (acceleratorHeld_iff.2 h), Option.map_eq_some_iff]
  unfold Binds
  constructor
  · rintro ⟨entry, hfind, rfl⟩
    obtain ⟨hkey, earlier, later, hentries, hnot⟩ := List.find?_eq_some_iff_append.1 hfind
    obtain rfl : entry.1 = keysym := by simpa using hkey
    exact ⟨earlier, later, hentries, fun other ho => by simpa using hnot other ho⟩
  · rintro ⟨earlier, later, hentries, hnot⟩
    refine ⟨(keysym, action), List.find?_eq_some_iff_append.2 ⟨by simp, earlier, later,
      hentries, fun other ho => by simpa using hnot other ho⟩, rfl⟩

/-- Nothing is found for just the keysyms that are not bound. -/
lemma lookup?_eq_none_iff {held : Modifiers} (h : held.Includes bindings.modifier) :
    bindings.lookup? held keysym = none ↔ ∀ action, ¬ bindings.Binds keysym action := by
  simp only [← lookup?_eq_some_iff h, Option.eq_none_iff_forall_ne_some, ne_eq]

/-- The first keysym that is bound is found. -/
lemma findSome?_lookup?_eq_some_iff {held : Modifiers} (h : held.Includes bindings.modifier) :
    keysyms.findSome? (bindings.lookup? held) = some action ↔
      bindings.FirstBound keysyms action := by
  rw [List.findSome?_eq_some_iff]
  simp only [lookup?_eq_some_iff h, lookup?_eq_none_iff h, FirstBound]
  constructor
  · rintro ⟨earlier, keysym, later, hkeysyms, hbinds, hnot⟩
    exact ⟨earlier, keysym, later, hkeysyms, hnot, hbinds⟩
  · rintro ⟨earlier, keysym, later, hkeysyms, hnot, hbinds⟩
    exact ⟨earlier, keysym, later, hkeysyms, hbinds, hnot⟩

/-- A search through keysyms finds nothing just if none of them is bound. -/
lemma findSome?_lookup?_eq_none_iff {held : Modifiers} (h : held.Includes bindings.modifier) :
    keysyms.findSome? (bindings.lookup? held) = none ↔
      ¬ ∃ keysym ∈ keysyms, ∃ action, bindings.Binds keysym action := by
  simp [List.findSome?_eq_none_iff, lookup?_eq_none_iff h]

/-! ## One more binding -/

/-- An assignment changes what is found for its own keysym and nothing else. -/
lemma find?_assign (keysym other : Keysym) (action : Action) (entries : List (Keysym × Action)) :
    ((assign keysym action entries).find? fun entry => entry.1 = other).map Prod.snd =
      if other = keysym then some action
      else (entries.find? fun entry => entry.1 = other).map Prod.snd := by
  induction entries with
  | nil =>
    by_cases h : other = keysym <;> simp [assign, h, eq_comm]
  | cons entry rest ih =>
    unfold assign
    by_cases hentry : entry.1 = keysym
    · rw [if_pos hentry]
      by_cases h : other = keysym
      · simp [h]
      · have hne : ¬ keysym = other := fun he => h he.symm
        simp [h, hne, hentry]
    · rw [if_neg hentry]
      by_cases hother : entry.1 = other
      · have hne : ¬ other = keysym := fun he => hentry (hother.trans he)
        simp [hother, hne]
      · simp only [List.find?_cons_of_neg, hother, decide_false, Bool.false_eq_true,
          not_false_eq_true, ih]

/-- **What one more binding changes** is the action of its keysym, while the accelerator is held. -/
theorem lookup?_bind (bindings : KeyBindings) (keysym other : Keysym) (action : Action)
    (held : Modifiers) :
    (bindings.bind keysym action).lookup? held other =
      if bindings.acceleratorHeld held = true ∧ other = keysym then some action
      else bindings.lookup? held other := by
  show (if bindings.acceleratorHeld held = true then
    ((assign keysym action bindings.entries).find? fun entry => entry.1 = other).map Prod.snd
    else none) = _
  rw [find?_assign]
  unfold lookup?
  by_cases hheld : bindings.acceleratorHeld held = true <;> simp [hheld]

/-- A keysym that is bound anew gets the last place, and one that is bound again keeps its own. -/
lemma map_fst_assign (keysym : Keysym) (action : Action) (entries : List (Keysym × Action)) :
    (assign keysym action entries).map Prod.fst =
      if keysym ∈ entries.map Prod.fst then entries.map Prod.fst
      else entries.map Prod.fst ++ [keysym] := by
  induction entries with
  | nil => rfl
  | cons entry rest ih =>
    unfold assign
    by_cases hentry : entry.1 = keysym
    · rw [if_pos hentry, if_pos (by simp [hentry])]
      simp [hentry]
    · have hne : keysym ≠ entry.1 := fun he => hentry he.symm
      rw [if_neg hentry, List.map_cons, ih]
      by_cases hrest : keysym ∈ rest.map Prod.fst <;> simp [hrest, hne]

/-! ## Sequences of bindings -/

/-- The table that a sequence of bindings makes, the earliest binding first. -/
def ofBindings (modifier : Modifiers) (sequence : List (Keysym × Action)) : KeyBindings :=
  sequence.foldl (fun table binding => table.bind binding.1 binding.2) (empty modifier)

/-- The last binding of a keysym in a sequence is to an action. -/
def LastBinds (sequence : List (Keysym × Action)) (keysym : Keysym) (action : Action) : Prop :=
  ∃ earlier later, sequence = earlier ++ (keysym, action) :: later ∧
    ∀ binding ∈ later, binding.1 ≠ keysym

/-- A list has the keysyms of a sequence in the order in which they first occur. -/
structure InFirstOrder (keysyms sequence : List Keysym) : Prop where
  /-- The keysyms are those of the sequence. -/
  mem_iff (keysym : Keysym) : keysym ∈ keysyms ↔ keysym ∈ sequence
  /-- What occurs first in the sequence comes first. -/
  sorted : keysyms.Pairwise fun keysym other => sequence.idxOf keysym < sequence.idxOf other

variable {modifier held : Modifiers} {sequence : List (Keysym × Action)}
  {binding : Keysym × Action}

/-- Binding one more keysym comes last. -/
lemma ofBindings_concat (modifier : Modifiers) (sequence : List (Keysym × Action))
    (binding : Keysym × Action) :
    ofBindings modifier (sequence ++ [binding]) =
      (ofBindings modifier sequence).bind binding.1 binding.2 := by
  simp [ofBindings]

/-- Bindings do not change the accelerator. -/
lemma modifier_ofBindings (modifier : Modifiers) (sequence : List (Keysym × Action)) :
    (ofBindings modifier sequence).modifier = modifier := by
  induction sequence using List.reverseRecOn with
  | nil => rfl
  | append_singleton sequence binding ih =>
    rw [ofBindings_concat]
    exact ih

/-- One more binding is the last one of its keysym, and of no other. -/
lemma lastBinds_concat :
    LastBinds (sequence ++ [binding]) keysym action ↔
      if keysym = binding.1 then action = binding.2 else LastBinds sequence keysym action := by
  constructor
  · rintro ⟨earlier, later, hsplit, hlater⟩
    rcases List.eq_nil_or_concat' later with rfl | ⟨rest, last, rfl⟩
    · obtain ⟨-, hlast⟩ := List.append_inj' hsplit rfl
      obtain rfl : binding = (keysym, action) := List.singleton_inj.1 hlast
      rw [if_pos rfl]
    · rw [← List.cons_append, ← List.append_assoc] at hsplit
      obtain ⟨hsequence, hlast⟩ := List.append_inj' hsplit rfl
      obtain rfl : binding = last := List.singleton_inj.1 hlast
      have hne : keysym ≠ binding.1 := fun he => hlater binding (by simp) he.symm
      rw [if_neg hne]
      exact ⟨earlier, rest, hsequence, fun other ho => hlater other (by simp [ho])⟩
  · intro h
    by_cases hkey : keysym = binding.1
    · rw [if_pos hkey] at h
      exact ⟨sequence, [], by rw [hkey, h], nofun⟩
    · rw [if_neg hkey] at h
      obtain ⟨earlier, later, rfl, hlater⟩ := h
      refine ⟨earlier, later ++ [binding], by simp, fun other ho => ?_⟩
      rcases List.mem_append.1 ho with ho | ho
      · exact hlater other ho
      · obtain rfl := List.mem_singleton.1 ho
        exact fun he => hkey he.symm

/-- A keysym that is bound has a last binding. -/
lemma exists_lastBinds_iff :
    (∃ action, LastBinds sequence keysym action) ↔ ∃ binding ∈ sequence, binding.1 = keysym := by
  constructor
  · rintro ⟨action, earlier, later, rfl, -⟩
    exact ⟨(keysym, action), by simp, rfl⟩
  · induction sequence using List.reverseRecOn with
    | nil => exact fun ⟨_, hmem, _⟩ => absurd hmem List.not_mem_nil
    | append_singleton sequence last ih =>
      rintro ⟨binding, hmem, hbinding⟩
      by_cases hlast : keysym = last.1
      · exact ⟨last.2, lastBinds_concat.2 (by rw [if_pos hlast])⟩
      · have hearlier : binding ∈ sequence := by
          rcases List.mem_append.1 hmem with hmem | hmem
          · exact hmem
          · obtain rfl := List.mem_singleton.1 hmem
            exact absurd hbinding.symm hlast
        obtain ⟨action, haction⟩ := ih ⟨binding, hearlier, hbinding⟩
        exact ⟨action, lastBinds_concat.2 (by rwa [if_neg hlast])⟩

/-- **The last binding decides.** -/
lemma lookup?_ofBindings (modifier held : Modifiers) (sequence : List (Keysym × Action))
    (keysym : Keysym) (action : Action) :
    (ofBindings modifier sequence).lookup? held keysym = some action ↔
      held.Includes modifier ∧ LastBinds sequence keysym action := by
  induction sequence using List.reverseRecOn with
  | nil =>
    have hnone : (empty modifier).lookup? held keysym = none := ite_self none
    have hunbound : ¬ LastBinds [] keysym action := fun ⟨_, _, hsplit, _⟩ => by simp at hsplit
    simp [ofBindings, hnone, hunbound]
  | append_singleton sequence binding ih =>
    have hheld : (ofBindings modifier sequence).acceleratorHeld held = true ↔
        held.Includes modifier := by
      rw [acceleratorHeld_iff, modifier_ofBindings]
    rw [ofBindings_concat, lookup?_bind, lastBinds_concat]
    by_cases hkey : keysym = binding.1
    · by_cases hincludes : held.Includes modifier
      · rw [if_pos ⟨hheld.2 hincludes, hkey⟩, if_pos hkey, Option.some.injEq, eq_comm]
        exact (and_iff_right hincludes).symm
      · rw [if_neg fun hboth => hincludes (hheld.1 hboth.1), ih]
        simp [hincludes]
    · rw [if_neg fun hboth => hkey hboth.2, if_neg hkey, ih]

namespace InFirstOrder

variable {occurring : List Keysym}

/-- No keysym comes twice, as it does not first occur before itself. -/
lemma nodup (h : InFirstOrder keysyms occurring) : keysyms.Nodup := by
  refine h.sorted.imp fun {first second} hlt he => ?_
  rw [he] at hlt
  exact Nat.lt_irrefl _ hlt

/-- One more keysym comes last, unless it occurs already. -/
lemma concat (h : InFirstOrder keysyms occurring) (keysym : Keysym) :
    InFirstOrder (if keysym ∈ keysyms then keysyms else keysyms ++ [keysym])
      (occurring ++ [keysym]) := by
  have hsorted : keysyms.Pairwise fun first second =>
      (occurring ++ [keysym]).idxOf first < (occurring ++ [keysym]).idxOf second := by
    refine h.sorted.imp_of_mem fun {first second} hfirst hsecond hlt => ?_
    rw [List.idxOf_append_of_mem ((h.mem_iff first).1 hfirst),
      List.idxOf_append_of_mem ((h.mem_iff second).1 hsecond)]
    exact hlt
  by_cases hmem : keysym ∈ keysyms
  · rw [if_pos hmem]
    refine ⟨fun other => ?_, hsorted⟩
    rw [List.mem_append, List.mem_singleton, h.mem_iff]
    refine ⟨.inl, fun ho => ho.elim id ?_⟩
    rintro rfl
    exact (h.mem_iff other).1 hmem
  · rw [if_neg hmem]
    have hnew : keysym ∉ occurring := fun ho => hmem ((h.mem_iff keysym).2 ho)
    refine ⟨fun other => ?_, ?_⟩
    · rw [List.mem_append, List.mem_append, h.mem_iff]
    · rw [List.pairwise_append]
      refine ⟨hsorted, List.pairwise_singleton _ keysym, fun first hfirst second hsecond => ?_⟩
      rw [List.mem_singleton.1 hsecond, List.idxOf_append_of_mem ((h.mem_iff first).1 hfirst),
        List.idxOf_append_of_notMem hnew]
      exact Nat.lt_add_right _ (List.idxOf_lt_length_of_mem ((h.mem_iff first).1 hfirst))

end InFirstOrder

/-- Each bound keysym has one entry, at the place of its first binding. -/
lemma inFirstOrder_ofBindings (modifier : Modifiers) (sequence : List (Keysym × Action)) :
    InFirstOrder ((ofBindings modifier sequence).entries.map Prod.fst)
      (sequence.map Prod.fst) := by
  induction sequence using List.reverseRecOn with
  | nil => exact ⟨fun _ => Iff.rfl, .nil⟩
  | append_singleton sequence binding ih =>
    have hentries : (ofBindings modifier (sequence ++ [binding])).entries =
        assign binding.1 binding.2 (ofBindings modifier sequence).entries := by
      rw [ofBindings_concat]
      rfl
    rw [hentries, map_fst_assign, List.map_append]
    exact ih.concat binding.1

/-- **A table of key bindings is a finite map.** Whatever keysyms are bound one after the other, the
table has each of them once, in the order in which they were first bound. It gives the action of the
last binding of a keysym while the accelerator is held, whatever else is held, and gives nothing if
the accelerator is not held or the keysym was never bound.

**Proof sketch.** Both are shown for one more binding. It leaves the entry of a keysym in its place
and sets the action, or else appends an entry; and it is the last binding of its own keysym and
leaves the last bindings of the others as they are. -/
theorem ofBindings_finite_map (modifier : Modifiers) (sequence : List (Keysym × Action)) :
    let table := ofBindings modifier sequence
    table.modifier = modifier ∧
    (table.entries.map Prod.fst).Nodup ∧
    InFirstOrder (table.entries.map Prod.fst) (sequence.map Prod.fst) ∧
    ∀ held keysym,
      (∀ action, table.lookup? held keysym = some action ↔
        held.Includes table.modifier ∧ LastBinds sequence keysym action) ∧
      (table.lookup? held keysym = none ↔
        ¬ held.Includes table.modifier ∨ ∀ binding ∈ sequence, binding.1 ≠ keysym) := by
  intro table
  have hmodifier : table.modifier = modifier := modifier_ofBindings modifier sequence
  have horder := inFirstOrder_ofBindings modifier sequence
  rw [hmodifier]
  refine ⟨rfl, horder.nodup, horder, fun held keysym =>
    ⟨lookup?_ofBindings modifier held sequence keysym, ?_⟩⟩
  have hfound : table.lookup? held keysym ≠ none ↔
      held.Includes modifier ∧ ∃ binding ∈ sequence, binding.1 = keysym := by
    rw [Option.ne_none_iff_exists', ← exists_lastBinds_iff, ← exists_and_left]
    exact exists_congr fun action => lookup?_ofBindings modifier held sequence keysym action
  rw [← not_iff_not, ← ne_eq, hfound, not_or, not_not]
  simp

/-- The table that is in force without a configuration is made of two bindings. -/
example : standard = ofBindings Modifiers.alt [(.escape, .terminate), (.f1, .cycleFocus)] := rfl

end KeyBindings

end Compositor
