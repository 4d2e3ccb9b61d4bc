import Compositor.Keysym
import Mathlib.Data.List.Induction

set_option autoImplicit false

/-!
# Numbers as texts

A number is written with its decimal digits and no more. It is also read from texts that have zeros
in front of these digits, and from such texts after a plus sign. No other text is read as a number,
so texts of one number differ in no more than what stands in front of the digits.

## Main definitions

* `Numeral.padding` — what may stand in front of the digits.

## Main results

* `Numeral.readDigits?_eq_some_iff`, `Numeral.readWord?_eq_some_iff` — the texts that are read as a
  given number.
-/

namespace Compositor.Numeral

/-- What may stand in front of the digits of a number: a plus sign or nothing, and then zeros. -/
def padding (plus : Bool) (zeros : Nat) : List Char :=
  (if plus then ['+'] else []) ++ List.replicate zeros '0'

/-! ## Digits -/

/-- A digit stands for a number below ten. -/
lemma value_lt_of_isDigit {c : Char} (h : c.isDigit = true) : c.toNat - '0'.toNat < 10 := by
  have hnine := (Char.isDigit_iff_toNat.1 h).2
  have hrange : '9'.toNat = '0'.toNat + 9 := by decide
  omega

/-- A digit is what is written for its value. -/
lemma toDigits_of_isDigit {c : Char} (h : c.isDigit = true) :
    Nat.toDigits 10 (c.toNat - '0'.toNat) = [c] := by
  have hlt := value_lt_of_isDigit h
  have hcode : (c.toNat - '0'.toNat).digitChar.toNat = c.toNat := by
    rw [Nat.toNat_digitChar_of_lt_ten hlt]
    exact Nat.add_sub_of_le (Char.isDigit_iff_toNat.1 h).1
  rw [Nat.toDigits_of_lt_base hlt, Char.toNat_inj.1 hcode]

/-- Digits are what is written for their value, after zeros.

**Proof sketch.** Induction on the digits from the last one on. If the value of those before it is
zero, they are zeros, and so they all go in front of it; else it comes after their digits. -/
lemma exists_zeros {digits : List Char} (hne : digits ≠ [])
    (hdigits : ∀ c ∈ digits, c.isDigit = true) :
    ∃ zeros, digits =
      List.replicate zeros '0' ++ Nat.toDigits 10 (Nat.ofDigitChars 10 digits 0) := by
  induction digits using List.reverseRecOn with
  | nil => exact absurd rfl hne
  | append_singleton front last ih =>
    have hlast : last.isDigit = true := hdigits last (by simp)
    have hvalue : Nat.ofDigitChars 10 (front ++ [last]) 0 =
        10 * Nat.ofDigitChars 10 front 0 + (last.toNat - '0'.toNat) := by
      rw [Nat.ofDigitChars_append, Nat.ofDigitChars_cons]
      rfl
    rw [hvalue]
    by_cases hfront : front = []
    · subst hfront
      refine ⟨0, ?_⟩
      rw [Nat.ofDigitChars_nil, Nat.mul_zero, Nat.zero_add, toDigits_of_isDigit hlast]
      rfl
    · obtain ⟨zeros, hz⟩ := ih hfront fun c hc => hdigits c (List.mem_append_left _ hc)
      rcases Nat.eq_zero_or_pos (Nat.ofDigitChars 10 front 0) with hzero | hpos
      · refine ⟨zeros + 1, ?_⟩
        rw [hzero, Nat.toDigits_zero, ← List.replicate_succ'] at hz
        rw [hzero, Nat.mul_zero, Nat.zero_add, toDigits_of_isDigit hlast, ← hz]
      · refine ⟨zeros, ?_⟩
        rw [← Nat.toDigits_append_toDigits (by decide) hpos (value_lt_of_isDigit hlast),
          toDigits_of_isDigit hlast, ← List.append_assoc, ← hz]

/-- Digits are read as the number for which they stand. -/
lemma readDigits?_eq_some_iff_value {digits : List Char} {n : Nat} :
    readDigits? digits = some n ↔
      (digits ≠ [] ∧ ∀ c ∈ digits, c.isDigit = true) ∧ Nat.ofDigitChars 10 digits 0 = n := by
  unfold readDigits?
  rw [Option.ite_none_right_eq_some, ← Nat.ofDigitChars_eq_foldl]
  simp

/-- **The digits that are read as a number** are those that are written for it, after zeros. -/
theorem readDigits?_eq_some_iff {digits : List Char} {n : Nat} :
    readDigits? digits = some n ↔
      ∃ zeros, digits = List.replicate zeros '0' ++ Nat.toDigits 10 n := by
  rw [readDigits?_eq_some_iff_value]
  constructor
  · rintro ⟨⟨hne, hdigits⟩, rfl⟩
    exact exists_zeros hne hdigits
  · rintro ⟨zeros, rfl⟩
    refine ⟨⟨by simp, fun c hc => ?_⟩, ?_⟩
    · rcases List.mem_append.1 hc with hc | hc
      · rw [List.eq_of_mem_replicate hc]
        rfl
      · exact Nat.isDigit_of_mem_toDigits (by decide) (by decide) hc
    · rw [Nat.ofDigitChars_append, Nat.ofDigitChars_replicate_zero, Nat.mul_zero,
        Nat.ofDigitChars_ten_toDigits]

/-- Digits have no sign. -/
lemma ne_plus_cons (zeros n : Nat) (rest : List Char) :
    List.replicate zeros '0' ++ Nat.toDigits 10 n ≠ '+' :: rest := by
  intro h
  have hread : readDigits? ('+' :: rest) = some n := readDigits?_eq_some_iff.2 ⟨zeros, h.symm⟩
  exact absurd ((readDigits?_eq_some_iff_value.1 hread).1.2 '+' (List.mem_cons_self ..)) (by decide)

/-! ## Words -/

/-- The text after a plus sign, if it begins with one. -/
def unsigned : List Char → List Char
  | '+' :: rest => rest
  | other => other

/-- A word is read off its digits, after a sign if there is one, if the number fits. -/
lemma readWord?_eq_some_iff_unsigned {text : List Char} {n : UInt32} :
    readWord? text = some n ↔ readDigits? (unsigned text) = some n.toNat := by
  unfold readWord?
  dsimp only
  split <;> rename_i hread
  · rename_i m
    have hdigits : readDigits? (unsigned text) = some m := hread
    rw [hdigits, Option.ite_none_right_eq_some, Option.some.injEq, Option.some.injEq]
    constructor
    · rintro ⟨hm, rfl⟩
      exact (UInt32.toNat_ofNat_of_lt' hm).symm
    · rintro rfl
      exact ⟨n.toNat_lt, UInt32.ofNat_toNat⟩
  · have hdigits : readDigits? (unsigned text) = none := hread
    rw [hdigits]
    exact ⟨nofun, nofun⟩

/-- **The texts that are read as a word** are those that are written for it, with padding. -/
theorem readWord?_eq_some_iff {text : List Char} {n : UInt32} :
    readWord? text = some n ↔
      ∃ plus zeros, text = padding plus zeros ++ Nat.toDigits 10 n.toNat := by
  rw [readWord?_eq_some_iff_unsigned, readDigits?_eq_some_iff]
  constructor
  · rintro ⟨zeros, h⟩
    unfold unsigned at h
    split at h
    · exact ⟨true, zeros, by rw [h]; rfl⟩
    · exact ⟨false, zeros, h⟩
  · rintro ⟨plus, zeros, rfl⟩
    refine ⟨zeros, ?_⟩
    cases plus with
    | true => rfl
    | false =>
      unfold unsigned
      split
      · rename_i rest h
        exact absurd h (ne_plus_cons zeros n.toNat rest)
      · rfl

end Compositor.Numeral
