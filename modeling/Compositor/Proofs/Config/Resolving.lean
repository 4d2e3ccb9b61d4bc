import Compositor.Config.Bindings
import Compositor.Proofs.Keys.Table
import Compositor.Proofs.Text.Lowercase

set_option autoImplicit false

/-!
# What key bindings resolve to

A configuration names a modifier and two keysyms. If all three names are known and the keysyms
differ, they resolve to a table that has the two keysyms and nothing else, and that is in force
while the modifier is held. Keysyms are compared and not their names, as a keysym may have several
spellings.

## Main definitions

* `Modifiers.words`, `Modifiers.IsNamed` — the names of the modifiers, in any case.
* `BindingsConfig.Names` — what the three names of a configuration mean.
* `KeyBindings.Offers` — what a table gives for which keysym.

## Main results

* `Modifiers.ofName?_text_eq_some_iff` — only ASCII letters are spellings of a modifier's name.
* `BindingsConfig.resolve_eq_ok_iff` — the tables that key bindings resolve to.
* `BindingsConfig.resolve_offers_named` — which keys such a table binds to which action.
-/

namespace Compositor

/-! ## Modifiers -/

namespace Modifiers

/-- The words for modifiers. -/
def words : List (String × Modifiers) :=
  [("alt", alt), ("ctrl", ctrl), ("control", ctrl), ("shift", shift), ("logo", logo),
    ("super", logo)]

/-- A text names a modifier if it spells a word for it in small and capital ASCII letters. -/
def IsNamed (flag : Modifiers) (text : String) : Prop :=
  ∃ word, (word, flag) ∈ words ∧ text.toList.map Char.toLower = word.toList

/-- A modifier is found by just the names in the table. -/
lemma ofName?_eq_some_iff {name : String} {flag : Modifiers} :
    ofName? name = some flag ↔ (name, flag) ∈ words := by
  simp only [ofName?, words, List.mem_cons, List.not_mem_nil, or_false, Prod.mk.injEq]
  grind

/-- The words for modifiers have plain letters only. -/
lemma isPlain_of_mem_words : ∀ entry ∈ words, ∀ c ∈ entry.1.toList, Lowercase.isPlain c = true := by
  have htable : (words.all fun entry => entry.1.toList.all Lowercase.isPlain) = true := by
    decide +kernel
  exact fun entry h => List.all_eq_true.1 (List.all_eq_true.1 htable entry h)

/-- Only ASCII letters are spellings of a modifier's name. -/
lemma ofName?_text_eq_some_iff {text : String} {flag : Modifiers} :
    ofName? (Lowercase.text text) = some flag ↔ flag.IsNamed text := by
  rw [ofName?_eq_some_iff]
  constructor
  · intro h
    exact ⟨_, h, (Lowercase.text_eq_iff_of_plain (isPlain_of_mem_words _ h) text).1 rfl⟩
  · rintro ⟨word, h, htext⟩
    rwa [(Lowercase.text_eq_iff_of_plain (isPlain_of_mem_words _ h) text).2 htext]

end Modifiers

/-! ## Tables -/

namespace KeyBindings

/-- A table gives just the listed actions, and only while a modifier is held. -/
def Offers (table : KeyBindings) (flag : Modifiers) (offered : List (Keysym × Action)) : Prop :=
  ∀ held keysym action, table.lookup? held keysym = some action ↔
    held.Includes flag ∧ (keysym, action) ∈ offered

/-- An empty table offers nothing. -/
lemma offers_empty (flag : Modifiers) : (empty flag).Offers flag [] := by
  intro held keysym action
  unfold lookup?
  split <;> simp [empty]

/-- Binding a keysym that was not bound before adds what the table gives for it. -/
lemma Offers.bind {table : KeyBindings} {flag : Modifiers} {offered : List (Keysym × Action)}
    {keysym : Keysym} (h : table.Offers flag offered) (hflag : table.modifier = flag)
    (hnew : ∀ entry ∈ offered, entry.1 ≠ keysym) (action : Action) :
    (table.bind keysym action).Offers flag (offered ++ [(keysym, action)]) := by
  intro held other found
  have hmem : (other, found) ∈ offered ++ [(keysym, action)] ↔
      (other, found) ∈ offered ∨ other = keysym ∧ found = action := by
    rw [List.mem_append, List.mem_singleton, Prod.mk.injEq]
  rw [lookup?_bind, hmem]
  by_cases hbound : table.acceleratorHeld held = true ∧ other = keysym
  · obtain ⟨hheld, rfl⟩ := hbound
    have hnot : (other, found) ∉ offered := fun hmem => hnew _ hmem rfl
    have hincludes : held.Includes flag := hflag ▸ acceleratorHeld_iff.1 hheld
    rw [if_pos ⟨hheld, rfl⟩, Option.some.injEq, eq_comm]
    exact ⟨fun he => ⟨hincludes, .inr ⟨rfl, he⟩⟩, fun he => (he.2.resolve_left hnot).2⟩
  · rw [if_neg hbound, h held other found]
    refine and_congr_right fun hincludes => ⟨.inl, fun he => he.resolve_right ?_⟩
    rintro ⟨rfl, -⟩
    exact hbound ⟨acceleratorHeld_iff.2 (hflag ▸ hincludes), rfl⟩

end KeyBindings

/-! ## Resolving -/

namespace BindingsConfig

variable {bindings : BindingsConfig}

/-- What the three names of a configuration mean: a modifier, and two keysyms that differ. -/
structure Names (bindings : BindingsConfig) (flag : Modifiers) (terminate cycleFocus : Keysym) :
    Prop where
  /-- The modifier is known, in any case. -/
  isNamed : flag.IsNamed bindings.modifier
  /-- The keysym that ends the session is known. -/
  ofName_terminate : Keysym.ofName? bindings.terminate = some terminate
  /-- The keysym that cycles the focus is known. -/
  ofName_cycleFocus : Keysym.ofName? bindings.cycleFocus = some cycleFocus
  /-- They are not two spellings of one keysym. -/
  ne : terminate ≠ cycleFocus

/-- The modifier of the bindings is known just if its name is one of a modifier. -/
lemma modifierFlag_eq_ok_iff {flag : Modifiers} :
    bindings.modifierFlag = .ok flag ↔ flag.IsNamed bindings.modifier := by
  rw [← Modifiers.ofName?_text_eq_some_iff]
  unfold modifierFlag
  dsimp only
  cases Modifiers.ofName? (Lowercase.text bindings.modifier) with
  | some found => rw [Except.ok.injEq, Option.some.injEq]
  | none => exact ⟨nofun, nofun⟩

/-- The keysym of a binding is known just if its name is one of a keysym. -/
lemma keysym_eq_ok_iff {binding : BindingName} {name : String} {found : Keysym} :
    keysym binding name = .ok found ↔ Keysym.ofName? name = some found := by
  unfold keysym
  cases Keysym.ofName? name with
  | some other => rw [Except.ok.injEq, Option.some.injEq]
  | none => exact ⟨nofun, nofun⟩

/-- **The tables that key bindings resolve to** bind the two keysyms that they name. -/
theorem resolve_eq_ok_iff {table : KeyBindings} :
    bindings.resolve = .ok table ↔
      ∃ flag terminate cycleFocus, bindings.Names flag terminate cycleFocus ∧
        table = ((KeyBindings.empty flag).bind terminate .terminate).bind cycleFocus
          .cycleFocus := by
  constructor
  · intro h
    unfold resolve at h
    split at h
    · cases h
    · rename_i flag hflag
      split at h
      · cases h
      · rename_i terminate hterminate
        split at h
        · cases h
        · rename_i cycleFocus hcycle
          split at h <;> rename_i hne
          · cases h
          · exact ⟨flag, terminate, cycleFocus, ⟨modifierFlag_eq_ok_iff.1 hflag,
              keysym_eq_ok_iff.1 hterminate, keysym_eq_ok_iff.1 hcycle, hne⟩,
              (Except.ok.inj h).symm⟩
  · rintro ⟨flag, terminate, cycleFocus, names, rfl⟩
    unfold resolve
    rw [modifierFlag_eq_ok_iff.2 names.isNamed]
    dsimp only
    rw [keysym_eq_ok_iff.2 names.ofName_terminate]
    dsimp only
    rw [keysym_eq_ok_iff.2 names.ofName_cycleFocus]
    dsimp only
    rw [if_neg names.ne]

/-- Two spellings of one keysym clash. -/
example : resolve ⟨"alt", "F1", "F01"⟩ = .error (.clash "F1") := by decide +kernel

/-- **Key bindings resolve** just if the modifier and both keysyms are known and the keysyms differ.
Then the table gives each of the two keysyms its own action while the modifier is held, whatever
else is held, and gives nothing in all other cases.

**Proof sketch.** The table is made by two bindings (`resolve_eq_ok_iff`). Each adds its keysym to
what the table offers, since the keysyms differ. -/
theorem resolve_offers_named (bindings : BindingsConfig) :
    ((∃ table, bindings.resolve = .ok table) ↔
      ∃ flag terminate cycleFocus, bindings.Names flag terminate cycleFocus) ∧
    ∀ flag terminate cycleFocus, bindings.Names flag terminate cycleFocus →
      ∃ table, bindings.resolve = .ok table ∧
        table.Offers flag [(terminate, .terminate), (cycleFocus, .cycleFocus)] := by
  constructor
  · constructor
    · rintro ⟨table, h⟩
      obtain ⟨flag, terminate, cycleFocus, names, -⟩ := resolve_eq_ok_iff.1 h
      exact ⟨flag, terminate, cycleFocus, names⟩
    · rintro ⟨flag, terminate, cycleFocus, names⟩
      exact ⟨_, resolve_eq_ok_iff.2 ⟨flag, terminate, cycleFocus, names, rfl⟩⟩
  · intro flag terminate cycleFocus names
    refine ⟨_, resolve_eq_ok_iff.2 ⟨flag, terminate, cycleFocus, names, rfl⟩, ?_⟩
    have hfirst : ((KeyBindings.empty flag).bind terminate .terminate).Offers flag
        [(terminate, .terminate)] :=
      (KeyBindings.offers_empty flag).bind rfl nofun .terminate
    exact hfirst.bind rfl (by simpa using names.ne) .cycleFocus

/-- Names in mixed case and with padding resolve, and other held modifiers do not matter. -/
theorem resolve_offers_named_mixed :
    let bindings : BindingsConfig := ⟨"SuPer", "F+02", "space"⟩
    bindings.Names Modifiers.logo ⟨0xffbf⟩ ⟨0x20⟩ ∧
      ∃ table, bindings.resolve = .ok table ∧
        table.lookup? ⟨0x45⟩ ⟨0xffbf⟩ = some .terminate ∧
        table.lookup? ⟨0x45⟩ ⟨0x20⟩ = some .cycleFocus ∧ table.lookup? ⟨0x08⟩ ⟨0x20⟩ = none := by
  intro bindings
  have names : bindings.Names Modifiers.logo ⟨0xffbf⟩ ⟨0x20⟩ := {
    isNamed := ⟨"super", by decide, by decide +kernel⟩
    ofName_terminate := by decide +kernel
    ofName_cycleFocus := by decide +kernel
    ne := by decide }
  have hheld : (⟨0x45⟩ : Modifiers).Includes Modifiers.logo := FlagSet.contains_iff.1 (by decide)
  have hother : ¬ (⟨0x08⟩ : Modifiers).Includes Modifiers.logo :=
    mt FlagSet.contains_iff.2 (by decide)
  obtain ⟨table, hresolve, hoffers⟩ := (resolve_offers_named bindings).2 _ _ _ names
  refine ⟨names, table, hresolve, (hoffers _ _ _).2 ⟨hheld, by decide⟩,
    (hoffers _ _ _).2 ⟨hheld, by decide⟩, Option.eq_none_iff_forall_ne_some.2 ?_⟩
  intro action h
  exact hother ((hoffers _ _ _).1 h).1

end BindingsConfig

end Compositor
