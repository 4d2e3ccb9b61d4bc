import Compositor.Text.Lowercase
import Mathlib.Tactic.Common

set_option autoImplicit false

/-!
# Lowercase forms

A lowercase form is made of characters that have no other lowercase form, so lowercasing a text a
second time changes nothing. For the characters of the case mapping this is a property of its
tables: no lowercase form of one run is a character of any run. It is checked for each character,
with the characters of all runs as the ones of a single number.

Names in a configuration are compared by their lowercase forms, for which the whole case mapping is
used. Most of it does not matter to a word of ASCII letters: only its spellings in small and capital
ASCII letters have it as their lowercase form. The exception is the letter `k`, since it is also the
lowercase form of the Kelvin sign.

## Main definitions

* `Lowercase.IsLower` — lowercasing leaves a character as it is, wherever it stands.
* `Lowercase.isPlain` — the small ASCII letters but `k`.

## Main results

* `Lowercase.character_cases` — what the lowercase form of a character is.
* `Lowercase.isLower_of_mem_characters` — a lowercase form has such characters only.
* `Lowercase.text_text` — lowercasing is idempotent.
* `Lowercase.text_eq_iff_of_plain` — the texts whose lowercase form is a given word.
-/

namespace Compositor.Lowercase

/-- The characters with another lowercase form. The capital sigma is among those of the runs. -/
def capitals : List Run := ⟨0x130, 0x130, 1, 0⟩ :: runs

/-- Lowercasing leaves a character as it is, wherever it stands. -/
def IsLower (c : Char) : Prop :=
  ∀ run ∈ capitals, run.has c.toNat = false

/-! ## The tables -/

/-- The code points of a run. -/
def Run.points (run : Run) : List Nat :=
  List.range' run.first ((run.last - run.first) / run.step + 1) run.step

/-- A run has the code points between its ends that its step reaches. -/
lemma Run.has_iff {run : Run} {n : Nat} :
    run.has n = true ↔ (run.first ≤ n ∧ n ≤ run.last) ∧ (n - run.first) % run.step = 0 := by
  simp [has]

/-- The code points that a run has are among its points. -/
lemma Run.mem_points {run : Run} {n : Nat} (h : run.has n = true) : n ∈ run.points := by
  obtain ⟨⟨hfirst, hlast⟩, hstep⟩ := has_iff.1 h
  refine List.mem_range'.2 ⟨(n - run.first) / run.step, ?_, ?_⟩
  · exact Nat.lt_succ_of_le (Nat.div_le_div_right (Nat.sub_le_sub_right hlast _))
  · rw [Nat.mul_div_cancel' (Nat.dvd_of_mod_eq_zero hstep)]
    exact (Nat.add_sub_of_le hfirst).symm

/-- A number that has a one at just the places in a list. -/
def bits (places : List Nat) : Nat :=
  places.foldr (fun place rest => rest ||| 1 <<< place) 0

/-- A place is a one of the number that stands for the places. -/
lemma testBit_bits {places : List Nat} {n : Nat} (h : n ∈ places) :
    (bits places).testBit n = true := by
  induction places with
  | nil => cases h
  | cons place rest ih =>
    rw [bits, List.foldr_cons, Nat.testBit_or, Bool.or_eq_true]
    rcases List.mem_cons.1 h with rfl | h
    · exact .inr (by simp)
    · exact .inl (ih h)

/-- The code points of the capitals as one number, by which they are looked up fast. -/
def capitalBits : Nat :=
  bits (capitals.flatMap Run.points)

/-- A code point that is a zero of that number is in no run. -/
lemma has_eq_false_of_testBit {n : Nat} (h : capitalBits.testBit n = false) :
    ∀ run ∈ capitals, run.has n = false := by
  refine fun run hr => Bool.eq_false_iff.2 fun hhas => ?_
  have hbit := testBit_bits (List.mem_flatMap.2 ⟨run, hr, Run.mem_points hhas⟩)
  rw [← capitalBits, h] at hbit
  cases hbit

/-- Lowercase forms are not the code points of capitals. -/
lemma testBit_lower : (runs.all fun run => run.points.all fun n =>
    !capitalBits.testBit (n + run.offset).toNat) = true := by
  decide +kernel

/-- No run of capitals has the code point zero. -/
lemma has_zero : ∀ run ∈ capitals, run.has 0 = false := by
  have htable : (capitals.all fun run => !run.has 0) = true := by decide +kernel
  intro run hr
  simpa using List.all_eq_true.1 htable run hr

/-! ## Characters -/

/-- A number that is no code point is a large one. It stands for the code point zero. -/
lemma toNat_ofNat_cases (n : Nat) :
    (Char.ofNat n).toNat = n ∨ (Char.ofNat n).toNat = 0 ∧ 0xd800 ≤ n := by
  by_cases h : n.isValidChar
  · exact .inl (by rw [Char.ofNat, dif_pos h]; rfl)
  · exact .inr ⟨by rw [Char.ofNat, dif_neg h]; rfl, Nat.not_lt.1 fun hlt => h (.inl hlt)⟩

/-- Whether lowercasing leaves a character as it is can be looked up. -/
lemma isLower_of_all {c : Char} (h : (capitals.all fun run => !run.has c.toNat) = true) :
    IsLower c :=
  fun run hr => by simpa using List.all_eq_true.1 h run hr

/-- The lowercase forms that do not come from runs: those of the dotted capital I and of the
sigma. -/
lemma isLower_of_mem_others : ∀ c ∈ ['i', '\u0307', 'σ', 'ς'], IsLower c := by
  have htable : (['i', '\u0307', 'σ', 'ς'].all fun c =>
      capitals.all fun run => !run.has c.toNat) = true := by decide +kernel
  exact fun c hc => isLower_of_all (List.all_eq_true.1 htable c hc)

/-- A character that lowercasing leaves as it is has no run. -/
lemma IsLower.find?_runs {c : Char} (h : IsLower c) :
    runs.find? (fun run => run.has c.toNat) = none :=
  List.find?_eq_none.2 fun run hr => by simp [h run (List.mem_cons_of_mem _ hr)]

/-- A letter in lowercase is no capital sigma. -/
lemma IsLower.ne_sigma {c : Char} (h : IsLower c) : c ≠ 'Σ' := by
  rintro rfl
  have hrun : (runs.find? fun run => run.has 'Σ'.toNat).isSome = true := by decide +kernel
  rw [h.find?_runs] at hrun
  cases hrun

/-- A letter in lowercase is its own lowercase form. -/
lemma IsLower.character_eq {c : Char} (h : IsLower c) : character c = [c] := by
  have hne : c ≠ '\u0130' := by
    rintro rfl
    exact absurd (h _ (List.mem_cons_self ..)) (by decide)
  rw [character, if_neg hne, h.find?_runs]

/-- The lowercase form of a character: the dotted capital I has two characters, one of a run is
shifted with its run, and any other is left as it is. -/
lemma character_cases (c : Char) :
    (c = '\u0130' ∧ character c = ['i', '\u0307']) ∨
      (∃ run ∈ runs, run.has c.toNat = true ∧
        character c = [Char.ofNat (c.toNat + run.offset).toNat]) ∨
      (IsLower c ∧ character c = [c]) := by
  unfold character
  split
  · exact .inl ⟨‹_›, rfl⟩
  · rename_i hne
    split <;> rename_i hfind
    · rename_i run
      have hhas : run.has c.toNat = true := by simpa using List.find?_some hfind
      exact .inr (.inl ⟨run, List.mem_of_find?_eq_some hfind, hhas, rfl⟩)
    · refine .inr (.inr ⟨fun run hr => ?_, rfl⟩)
      rcases List.mem_cons.1 hr with rfl | hr
      · refine Bool.eq_false_iff.2 fun hhas => hne ?_
        have hcode := (Run.has_iff.1 hhas).1
        exact Char.toNat_inj.1 (Nat.le_antisymm hcode.2 hcode.1)
      · exact Bool.eq_false_iff.2 (List.find?_eq_none.1 hfind run hr)

/-- The lowercase form of a character has characters that lowercasing leaves as they are. -/
lemma isLower_of_mem_character {c d : Char} (h : d ∈ character c) : IsLower d := by
  obtain ⟨-, hform⟩ | ⟨run, hmem, hhas, hform⟩ | ⟨hlower, hform⟩ := character_cases c <;>
    rw [hform] at h
  · exact isLower_of_mem_others d (List.mem_append_left ['σ', 'ς'] h)
  · rw [List.mem_singleton.1 h]
    have hlower := List.all_eq_true.1 (List.all_eq_true.1 testBit_lower run hmem) c.toNat
      (Run.mem_points hhas)
    intro other ho
    rcases toNat_ofNat_cases (c.toNat + run.offset).toNat with hn | ⟨hn, -⟩ <;> rw [hn]
    · exact has_eq_false_of_testBit (by simpa using hlower) other ho
    · exact has_zero other ho
  · rwa [List.mem_singleton.1 h]

/-! ## Texts -/

/-- A lowercase form has characters that lowercasing leaves as they are. -/
lemma isLower_of_mem_characters {before s : List Char} {d : Char}
    (h : d ∈ characters before s) : IsLower d := by
  induction s generalizing before with
  | nil => cases h
  | cons c after ih =>
    rw [characters, List.mem_append] at h
    rcases h with h | h
    · split at h
      · rw [List.mem_singleton.1 h]
        split <;> exact isLower_of_mem_others _ (by simp)
      · exact isLower_of_mem_character h
    · exact ih h

/-- Such characters are left as they are. -/
lemma characters_of_isLower {before s : List Char} (h : ∀ c ∈ s, IsLower c) :
    characters before s = s := by
  induction s generalizing before with
  | nil => rfl
  | cons c after ih =>
    have hc := h c (List.mem_cons_self ..)
    rw [characters, if_neg hc.ne_sigma, hc.character_eq,
      ih fun d hd => h d (List.mem_cons_of_mem _ hd), List.singleton_append]

/-- **Lowercasing is idempotent.** -/
theorem text_text (s : String) : text (text s) = text s := by
  rw [text, text, String.toList_ofList,
    characters_of_isLower fun c hc => isLower_of_mem_characters hc]

/-- The small ASCII letters that are the lowercase form of their ASCII capitals only. -/
def isPlain (c : Char) : Bool :=
  c.isLower && c != 'k'

/-! ## Plain letters -/

/-- Core changes ASCII capitals only. -/
lemma toLower_cases (c : Char) :
    (65 ≤ c.toNat ∧ c.toNat ≤ 90) ∧ c.toLower.toNat = c.toNat + 32 ∨
      ¬ (65 ≤ c.toNat ∧ c.toNat ≤ 90) ∧ c.toLower = c := by
  have hiff : (c.val ≥ 'A'.val ∧ c.val ≤ 'Z'.val) ↔ (65 ≤ c.toNat ∧ c.toNat ≤ 90) := Iff.rfl
  unfold Char.toLower
  split <;> rename_i hcapital <;> rw [hiff] at hcapital
  · refine .inl ⟨hcapital, ?_⟩
    show (c.val + 32).toNat = c.toNat + 32
    rw [UInt32.toNat_add, Char.toNat_val]
    exact Nat.mod_eq_of_lt (by simp; omega)
  · exact .inr ⟨hcapital, rfl⟩

/-- The run of ASCII capitals comes before all others, and no other leads to small ASCII letters but
for the one of the Kelvin sign. -/
lemma ascii_runs : ∀ run ∈ runs, (run.first = 65 ∧ run.last = 90 ∧ run.offset = 32) ∨
    128 ≤ run.first ∧ ((run.first = run.last ∧ run.first + run.offset = 'k'.toNat) ∨
      122 < run.first + run.offset) := by
  decide +kernel

/-- The plain letters are those from a to z but for k, which is the lowercase form of another sign,
too. -/
lemma toNat_of_isPlain {p : Char} (h : isPlain p = true) :
    (97 ≤ p.toNat ∧ p.toNat ≤ 122) ∧ p.toNat ≠ 'k'.toNat := by
  obtain ⟨hlower, hk⟩ := Bool.and_eq_true_iff.1 h
  obtain ⟨ha, hz⟩ := Bool.and_eq_true_iff.1 hlower
  exact ⟨⟨of_decide_eq_true ha, of_decide_eq_true hz⟩, fun he => bne_iff_ne.1 hk (Char.toNat_inj.1 he)⟩

/-- A plain letter is its own lowercase form among the ASCII letters. -/
lemma toLower_of_isPlain {p : Char} (h : isPlain p = true) : p.toLower = p := by
  have hrange := toNat_of_isPlain h
  exact ((toLower_cases p).resolve_left fun hcapital => by omega).2

/-- A plain letter is the lowercase form of itself and its ASCII capital. -/
lemma character_eq_iff {c p : Char} (hp : isPlain p = true) :
    character c = [p] ↔ c.toLower = p := by
  have hplain := toNat_of_isPlain hp
  have hlower := toLower_cases c
  obtain ⟨rfl, hform⟩ | ⟨run, hmem, hhas, hform⟩ | ⟨hkept, hform⟩ := character_cases c <;>
    rw [hform]
  · refine ⟨fun h => by simp at h, ?_⟩
    rintro rfl
    exact absurd hp (by decide)
  · have hrange := (Run.has_iff.1 hhas).1
    have htable := ascii_runs run hmem
    have hcode := toNat_ofNat_cases (c.toNat + run.offset).toNat
    rw [← Char.toNat_inj] at hlower
    rw [List.singleton_inj, ← Char.toNat_inj, ← Char.toNat_inj]
    -- in the run of ASCII capitals both are the code moved by 32, in any other both are no letter
    omega
  · have hcapital := hkept ⟨65, 90, 1, 32⟩ (List.mem_cons_of_mem _ (List.mem_cons_self ..))
    have hsame : c.toLower = c := by
      refine (hlower.resolve_left fun hchanged => ?_).2
      simp [Run.has, hchanged.1, Nat.mod_one] at hcapital
    rw [hsame, List.singleton_inj]

/-! ## Words -/

/-- A character of a text becomes one character, which is plain just if core makes it that letter;
or it becomes something that no word of plain letters has. -/
lemma form_cases (c : Char) (final : Bool) :
    let form := if c = 'Σ' then [if final then 'ς' else 'σ'] else character c
    (∃ d, form = [d] ∧ ∀ p, isPlain p = true → (d = p ↔ c.toLower = p)) ∨
      (∃ d ∈ form, isPlain d = false) ∧ isPlain c.toLower = false := by
  intro form
  by_cases hsigma : c = 'Σ'
  · subst hsigma
    refine .inr ⟨⟨_, List.mem_singleton_self _, ?_⟩, by decide⟩
    cases final <;> decide
  · have hform : form = character c := if_neg hsigma
    rw [hform]
    have hsingle {d : Char} (hd : character c = [d]) :
        ∀ p, isPlain p = true → (d = p ↔ c.toLower = p) := fun p hp => by
      rw [← character_eq_iff hp, hd, List.singleton_inj]
    obtain ⟨rfl, hdotted⟩ | ⟨_, -, -, hd⟩ | ⟨-, hd⟩ := character_cases c
    · exact .inr ⟨⟨'\u0307', by simp [hdotted], by decide⟩, by decide⟩
    · exact .inl ⟨_, hd, hsingle hd⟩
    · exact .inl ⟨_, hd, hsingle hd⟩

/-- A word of plain letters is the lowercase form of just its spellings with letters in either
case. -/
lemma characters_eq_iff {before s word : List Char} (h : ∀ p ∈ word, isPlain p = true) :
    characters before s = word ↔ s.map Char.toLower = word := by
  -- what goes before matters to a sigma only, which no spelling of a plain word has
  induction s generalizing before word with
  | nil => rfl
  | cons c after ih =>
    rw [characters, List.map_cons]
    obtain ⟨d, hform, hd⟩ | ⟨⟨d, hmem, hd⟩, hc⟩ := form_cases c (endsWord before after)
    · rw [hform, List.singleton_append]
      cases word with
      | nil => exact ⟨nofun, nofun⟩
      | cons p rest =>
        rw [List.cons.injEq, List.cons.injEq, hd p (h p (List.mem_cons_self ..)),
          ih fun q hq => h q (List.mem_cons_of_mem p hq)]
    · constructor
      · rintro rfl
        simp [h d (List.mem_append_left _ hmem)] at hd
      · rintro rfl
        simp [h c.toLower (List.mem_cons_self ..)] at hc

/-- **The texts whose lowercase form is a word** of plain letters are its spellings in small and
capital ASCII letters. -/
theorem text_eq_iff_of_plain {word : String} (h : ∀ p ∈ word.toList, isPlain p = true)
    (s : String) : text s = word ↔ s.toList.map Char.toLower = word.toList := by
  rw [text, ← String.toList_inj, String.toList_ofList]
  exact characters_eq_iff h

/-- A word of plain letters is its own lowercase form. -/
lemma text_eq_self_of_plain {word : String} (h : ∀ p ∈ word.toList, isPlain p = true) :
    text word = word := by
  refine (text_eq_iff_of_plain h word).2 ?_
  rw [List.map_congr_left fun p hp => toLower_of_isPlain (h p hp), List.map_id']

end Compositor.Lowercase
