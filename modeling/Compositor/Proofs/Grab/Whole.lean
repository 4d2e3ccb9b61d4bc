import Compositor.Grab
import Mathlib

set_option autoImplicit false

/-!
# Whole doubles

The cursor moves in doubles and the layout counts in integers. A double has 53 bits, so that
integers of that size are doubles, and so are their differences.

## Main definitions

* `Double.value?` — the rational number that a double stands for.
* `Double.IsWhole` — a double stands for an integer.
* `Double.IsNormal` — a mantissa has all its bits, and the exponent is in range.

## Main results

* `Double.isWhole_toDouble` — coordinates are whole doubles.
* `Double.IsWhole.sub` — the difference of whole doubles is exact.
* `Double.IsWhole.ofDouble_eq` — the coordinate of a whole double.
-/

namespace Compositor.Double

open Float.Model (Format UnpackedFloat totalExponent)
open Float.Model.UnpackedFloat

/-- The rational number that an unpacked double stands for. -/
def unpackedValue? : UnpackedFloat → Option ℚ
  | .zero _ => some 0
  | .finite sign mantissa exponent _ => some (sign.apply mantissa * 2 ^ exponent)
  | .infinity _ => none
  | .notANumber => none

/-- The rational number that a double stands for, unless it is infinite or not a number. -/
def value? (x : Float) : Option ℚ := unpackedValue? x.toModel.unpack

/-- A double stands for an integer. -/
def IsWhole (x : Float) (n : Int) : Prop := value? x = some (n : ℚ)

/-! ## Mantissas and exponents -/

/-- Shifting a mantissa to the left makes its logarithm larger by the number of places. -/
lemma log2_mul_two_pow {m : Nat} (h : m ≠ 0) (k : Nat) : (m * 2 ^ k).log2 = m.log2 + k := by
  induction k with
  | zero => simp
  | succ k ih =>
    have hdouble : m * 2 ^ (k + 1) = 2 * (m * 2 ^ k) := by ring
    rw [hdouble, Nat.log2_two_mul (by positivity), ih, Nat.add_assoc]

/-- Zeros behind a mantissa make up for a smaller exponent. -/
lemma shiftLeft_value (m k : Nat) (e : Int) :
    ((m <<< k : Nat) : ℚ) * 2 ^ (e - k) = m * 2 ^ e := by
  have hscale : (2 : ℚ) ^ k * 2 ^ (e - k) = 2 ^ e := by
    rw [← zpow_natCast, ← zpow_add₀ (by norm_num), add_sub_cancel]
  rw [Nat.shiftLeft_eq, Nat.cast_mul, Nat.cast_pow, Nat.cast_ofNat, mul_assoc, hscale]

/-- A mantissa whose exponent is not positive is the number with zeros behind it. -/
lemma eq_mul_two_pow {m n k : Nat} {e : Int} (h : (m : ℚ) * 2 ^ e = n) (he : e = -k) :
    m = n * 2 ^ k := by
  rw [he, zpow_neg, zpow_natCast, mul_inv_eq_iff_eq_mul₀ (by positivity)] at h
  exact_mod_cast h

/-- The leading bit of a number is that of its mantissa, moved by the exponent. -/
lemma log2_add_of_value {m n : Nat} {e : Int} (hn : 0 < n) (h : (m : ℚ) * 2 ^ e = n) :
    (m.log2 : Int) + e = n.log2 := by
  obtain ⟨k, rfl | rfl⟩ := e.eq_nat_or_neg
  · have hm : m * 2 ^ k = n := by
      rw [zpow_natCast] at h
      exact_mod_cast h
    have hne : m ≠ 0 := by
      rintro rfl
      omega
    rw [← hm, log2_mul_two_pow hne, Nat.cast_add]
  · rw [eq_mul_two_pow h rfl, log2_mul_two_pow hn.ne', Nat.cast_add, add_neg_cancel_right]

/-- The sign of an integer, and its size. -/
lemma apply_natAbs {sign : Sign} {m : Nat} {n : Int} {e : Int}
    (h : (n : ℚ) = (sign.apply m : Int) * 2 ^ e) :
    (m : ℚ) * 2 ^ e = n.natAbs ∧ sign.apply n.natAbs = n := by
  have hsize : (0 : ℚ) ≤ m * 2 ^ e := by positivity
  cases sign with
  | negative =>
    have hneg : ((-n : Int) : ℚ) = m * 2 ^ e := by
      rw [Int.cast_neg, h]
      simp [Sign.apply]
    have hn : 0 ≤ -n := by exact_mod_cast hneg ▸ hsize
    have hnat : -n = n.natAbs := by omega
    rw [← hneg, hnat]
    exact ⟨rfl, by change -(n.natAbs : Int) = n; omega⟩
  | positive =>
    have hpos : (n : ℚ) = m * 2 ^ e := h
    have hn : 0 ≤ n := by exact_mod_cast hpos ▸ hsize
    have hnat : n = n.natAbs := by omega
    rw [← hpos, hnat]
    exact ⟨rfl, rfl⟩

/-- Equal magnitudes are equal with the same sign. -/
lemma apply_congr (sign : Sign) {m n : Nat} {e f : Int} (h : (m : ℚ) * 2 ^ e = n * 2 ^ f) :
    ((sign.apply m : Int) : ℚ) * 2 ^ e = (sign.apply n : Int) * 2 ^ f := by
  cases sign <;> simp [Sign.apply, h]

/-- Zeros behind a mantissa with a sign make up for a smaller exponent. -/
lemma apply_shiftLeft (sign : Sign) (m : Nat) {e f : Int} (h : f ≤ e) :
    ((sign.apply (m <<< (e - f).toNat : Nat) : Int) : ℚ) * 2 ^ f =
      (sign.apply m : Int) * 2 ^ e := by
  have hexponent : e - (e - f).toNat = f := by omega
  have hvalue := shiftLeft_value m (e - f).toNat e
  rw [hexponent] at hvalue
  exact apply_congr sign hvalue

/-- A mantissa has all the bits of a double, and the exponent is in range. -/
structure IsNormal (mantissa : Nat) (exponent : Int) : Prop where
  /-- The first bit is set. -/
  low : 2 ^ 52 ≤ mantissa
  /-- There are no more than 53 bits. -/
  high : mantissa < 2 ^ 53
  /-- The exponent is not too small. -/
  least : -1074 ≤ exponent
  /-- The exponent is not too large. -/
  greatest : exponent ≤ 971

namespace IsNormal

variable {m : Nat} {e : Int}

/-- A mantissa with all its bits is not zero. -/
lemma pos (h : IsNormal m e) : 0 < m :=
  lt_of_lt_of_le (by positivity) h.low

/-- A mantissa with all its bits has 53 of them. -/
lemma log2_eq (h : IsNormal m e) : m.log2 = 52 :=
  (Nat.log2_eq_iff h.pos.ne').2 ⟨h.low, h.high⟩

/-- A positive integer with at most 53 bits is brought to all of them by zeros behind it. -/
lemma of_lt {n : Nat} (hpos : 0 < n) (hlt : n < 2 ^ 53) :
    IsNormal (n * 2 ^ (52 - n.log2)) (n.log2 - 52) := by
  have hsize : n.log2 < 53 := (Nat.log2_lt hpos.ne').2 hlt
  have hfull : (n * 2 ^ (52 - n.log2)).log2 = 52 := by
    rw [log2_mul_two_pow hpos.ne']
    omega
  obtain ⟨hlow, hhigh⟩ := (Nat.log2_eq_iff (by positivity)).1 hfull
  exact ⟨hlow, hhigh, by omega, by omega⟩

end IsNormal

/-! ## Rounding -/

/-- The exponent to which a number is rounded is 52 places behind its leading bit. -/
lemma targetExponent_eq {m : Nat} {e : Int} (h : -1074 ≤ m.log2 + e - 52) :
    Format.binary64.targetExponent (totalExponent m e) = m.log2 + e - 52 := by
  simp only [Format.targetExponent, totalExponent, Format.mantissaBits, Format.minExponent]
  omega

/-- Nothing is lost when zeros are shifted out. -/
lemma shiftRight_mul_two_pow (m k : Nat) :
    ExtendedMantissa.ofMantissaAndAccuracy (m * 2 ^ k) .exact >>> k = ⟨m, false, false⟩ := by
  induction k generalizing m with
  | zero =>
    rw [pow_zero, mul_one]
    rfl
  | succ k ih =>
    have hdouble : m * 2 ^ (k + 1) = m * 2 * 2 ^ k := by ring
    change ExtendedMantissa.shiftRightOne
      (ExtendedMantissa.ofMantissaAndAccuracy (m * 2 ^ (k + 1)) .exact >>> k) = _
    rw [hdouble, ih]
    simp [ExtendedMantissa.shiftRightOne]

namespace IsNormal

variable {m : Nat} {e : Int}

/-- A mantissa with zeros behind it is shifted back to its 53 bits, and nothing is lost. -/
lemma shiftToTargetExponent_eq (h : IsNormal m e) (k : Nat) :
    shiftToTargetExponent Format.binary64 (m * 2 ^ k) (e - k) .exact = (⟨m, false, false⟩, e) := by
  have hlog : ((m * 2 ^ k).log2 : Int) + (e - k) = 52 + e := by
    rw [log2_mul_two_pow h.pos.ne', h.log2_eq]
    omega
  have hshift : (52 + e - 52 - (e - k)).toNat = k := by omega
  have hleast := h.least
  unfold shiftToTargetExponent
  rw [targetExponent_eq (by omega), hlog]
  unfold shiftToExponent
  dsimp only
  rw [hshift, shiftRight_mul_two_pow, sub_add_cancel]

/-- A mantissa with all its bits, and with zeros behind them, is rounded to itself. -/
lemma roundWithAccuracy_eq (h : IsNormal m e) (sign : Sign) (k : Nat) :
    roundWithAccuracy Format.binary64 sign (m * 2 ^ k) (e - k) .exact =
      .finite sign m e h.pos := by
  have hexact : ExtendedMantissa.roundedMantissa ⟨m, false, false⟩ = m := rfl
  have hagain := h.shiftToTargetExponent_eq 0
  rw [pow_zero, mul_one, Nat.cast_zero, sub_zero] at hagain
  unfold roundWithAccuracy
  rw [h.shiftToTargetExponent_eq k]
  dsimp only
  rw [hexact, hagain]
  exact dif_neg h.pos.ne'

end IsNormal

/-- **A positive integer with at most 53 bits is not rounded**, whatever mantissa and exponent it is
given by.

**Proof sketch.** The exponent is brought to that of the mantissa with all 53 bits. It is not
positive, so what is shifted out are zeros. -/
lemma round_eq (sign : Sign) {m n : Nat} {e : Int} (hpos : 0 < n) (hlt : n < 2 ^ 53)
    (h : (m : ℚ) * 2 ^ e = n) :
    UnpackedFloat.round Format.binary64 sign m e =
      .finite sign (n * 2 ^ (52 - n.log2)) (n.log2 - 52) (IsNormal.of_lt hpos hlt).pos := by
  have hlog := log2_add_of_value hpos h
  have hsize : n.log2 < 53 := (Nat.log2_lt hpos.ne').2 hlt
  unfold UnpackedFloat.round decreaseExponent
  rw [targetExponent_eq (by omega), hlog]
  dsimp only
  generalize hj : (e - (n.log2 - 52)).toNat = j
  obtain ⟨k, hk⟩ : ∃ k : Nat, e - j = n.log2 - 52 - k := ⟨(n.log2 - 52 - e).toNat, by omega⟩
  have hmantissa : m <<< j = n * 2 ^ (52 - n.log2) * 2 ^ k := by
    rw [eq_mul_two_pow (k := 52 - n.log2 + k) ((shiftLeft_value m j e).trans h) (by omega), pow_add,
      mul_assoc]
  rw [hmantissa, hk]
  exact (IsNormal.of_lt hpos hlt).roundWithAccuracy_eq sign k

/-- A number is cut to itself if it is an integer. -/
lemma roundToInt_eq (sign : Sign) {m n : Nat} {e : Int} (h : (m : ℚ) * 2 ^ e = n) :
    roundToInt sign m e = sign.apply n := by
  unfold roundToInt decreaseExponent shiftToExponent
  rw [sub_zero]
  dsimp only
  generalize hk : (0 - (e - e.toNat)).toNat = k
  rw [eq_mul_two_pow (k := k) ((shiftLeft_value m e.toNat e).trans h) (by omega),
    shiftRight_mul_two_pow]

/-! ## Packing -/

/-- Equal mantissas and exponents make equal floats. -/
lemma finite_congr (sign : Sign) {m n : Nat} {e f : Int} {hm : 0 < m} {hn : 0 < n} (h : m = n)
    (he : e = f) : UnpackedFloat.finite sign m e hm = .finite sign n f hn := by
  subst h he
  rfl

/-- The sign that was packed is unpacked. -/
lemma ofBitVec_unpackSign (sign : Sign) (exponent : BitVec Format.binary64.exponentBits)
    (mantissa : BitVec Format.binary64.mantissaBitsWithoutImplicit) :
    Sign.ofBitVec (unpackSign (packComponents Format.binary64 sign exponent mantissa)) = sign := by
  simp only [unpackSign, packComponents, BitVec.extractLsb]
  rw [BitVec.extractLsb'_append_eq_of_le (by decide),
    BitVec.extractLsb'_append_eq_of_le (by decide)]
  cases sign <;> rfl

/-- A one in front of some bits adds its own value. -/
lemma toNat_one_append {w : Nat} (bits : BitVec w) :
    (1#1 ++ bits).toNat = 2 ^ w + bits.toNat := by
  rw [BitVec.toNat_append, ← Nat.shiftLeft_add_eq_or_of_lt bits.isLt, Nat.shiftLeft_eq]
  simp

/-- The exponent is stored with a bias, counted from the last bit of the mantissa. -/
lemma biased_eq (e : Int) : (e + Format.binary64.exponentBias +
    Format.binary64.mantissaBitsWithoutImplicit).toNat = (e + 1075).toNat := by
  change (e + 1023 + 52).toNat = _
  omega

namespace IsNormal

variable {m : Nat} {e : Int}

/-- A normal exponent fits into its eleven bits. -/
lemma toNat_exponentBits (h : IsNormal m e) :
    (BitVec.ofNat 11 (e + 1075).toNat).toNat = (e + 1075).toNat := by
  have hgreatest := h.greatest
  rw [BitVec.toNat_ofNat]
  omega

/-- The first bit is not packed. -/
lemma toNat_mantissaBits (h : IsNormal m e) : (1#1 ++ BitVec.ofNat 52 m).toNat = m := by
  have hlow := h.low
  have hhigh := h.high
  rw [toNat_one_append, BitVec.toNat_ofNat]
  omega

/-- The exponent's bits do not say that the double is infinite or not a number. -/
lemma exponentBits_ne_ones (h : IsNormal m e) : BitVec.ofNat 11 (e + 1075).toNat ≠ -1#11 := by
  intro hb
  have hbits := h.toNat_exponentBits
  have hgreatest := h.greatest
  rw [hb] at hbits
  change 2047 = _ at hbits
  omega

/-- The exponent's bits do not say that the first bit is missing. -/
lemma exponentBits_ne_zero (h : IsNormal m e) : BitVec.ofNat 11 (e + 1075).toNat ≠ 0#11 := by
  intro hb
  have hbits := h.toNat_exponentBits
  have hleast := h.least
  rw [hb] at hbits
  change 0 = _ at hbits
  omega

/-- Taking the bias away gives the exponent back. -/
lemma unbiased_eq (h : IsNormal m e) : ((e + 1075).toNat : Int) -
    (Format.binary64.exponentBias + Format.binary64.mantissaBitsWithoutImplicit) = e := by
  have hleast := h.least
  change ((e + 1075).toNat : Int) - (1023 + 52) = e
  omega

/-- A mantissa with all its bits is packed without loss. -/
lemma unpack_pack (h : IsNormal m e) (sign : Sign) :
    (Float.Model.pack (.finite sign m e h.pos)).unpack = .finite sign m e h.pos := by
  have hfits : ¬ 2 ^ Format.binary64.exponentBits ≤ (e + 1075).toNat + 1 := by
    have hgreatest := h.greatest
    change ¬ 2048 ≤ (e + 1075).toNat + 1
    omega
  have hfull : 52 + 1 = Format.binary64.mantissaBits := rfl
  change UnpackedFloat.unpack Format.binary64 (UnpackedFloat.pack Format.binary64 _) = _
  rw [UnpackedFloat.pack]
  dsimp only
  rw [h.log2_eq, biased_eq, if_neg hfits, if_pos hfull, UnpackedFloat.unpack]
  dsimp only
  rw [unpackExponent_packComponents, if_neg h.exponentBits_ne_ones, if_neg h.exponentBits_ne_zero,
    ofBitVec_unpackSign, h.toNat_exponentBits]
  refine finite_congr sign ?_ h.unbiased_eq
  rw [unpackMantissa_packComponents]
  exact h.toNat_mantissaBits

/-- What is packed keeps its value. -/
lemma value?_pack (h : IsNormal m e) (sign : Sign) :
    value? (.ofModel (.pack (.finite sign m e h.pos))) =
      some ((sign.apply m : Int) * (2 : ℚ) ^ e) := by
  unfold value?
  rw [h.unpack_pack]
  rfl

end IsNormal

/-- A finite double has all its bits, or the least exponent. -/
lemma isNormal_or_of_unpack_eq {x : Float.Model} {sign : Sign} {m : Nat} {e : Int} {hm : 0 < m}
    (h : x.unpack = .finite sign m e hm) : IsNormal m e ∨ m < 2 ^ 52 ∧ e = -1074 := by
  unfold Float.Model.unpack UnpackedFloat.unpack at h
  dsimp only at h
  set mantissa := @unpackMantissa Format.binary64 x.toBits.toBitVec
  set exponent := @unpackExponent Format.binary64 x.toBits.toBitVec
  have hmantissa : mantissa.toNat < 2 ^ 52 := mantissa.isLt
  have hexponent : exponent.toNat < 2 ^ 11 := exponent.isLt
  have hbias : (Format.binary64.exponentBias : Int) = 1023 := rfl
  split_ifs at h with hones hnone hzero hnothing
  · obtain ⟨-, rfl, rfl⟩ := UnpackedFloat.finite.injEq .. ▸ h
    rw [hzero, hbias]
    exact .inr ⟨hmantissa, rfl⟩
  · obtain ⟨-, rfl, rfl⟩ := UnpackedFloat.finite.injEq .. ▸ h
    have hfull : (1#1 ++ mantissa).toNat = 2 ^ 52 + mantissa.toNat := toNat_one_append mantissa
    have hpositive : exponent.toNat ≠ 0 := fun hn => hzero (BitVec.eq_of_toNat_eq hn)
    have hfinite : exponent.toNat ≠ 2047 := fun hn => hones (BitVec.eq_of_toNat_eq hn)
    rw [hfull, hbias]
    generalize exponent.toNat = exponent at *
    generalize mantissa.toNat = mantissa at *
    exact .inl ⟨by omega, by omega, by omega, by omega⟩

/-! ## Whole doubles -/

/-- A number is a zero, or it has a sign, a mantissa and an exponent. -/
lemma unpackedValue?_eq_some {x : UnpackedFloat} {q : ℚ} (h : unpackedValue? x = some q) :
    (∃ sign, x = .zero sign ∧ q = 0) ∨
      ∃ sign m e hm, x = .finite sign m e hm ∧ q = (sign.apply m : Int) * 2 ^ e := by
  cases x with
  | zero sign => exact .inl ⟨sign, rfl, (Option.some.inj h).symm⟩
  | finite sign m e hm => exact .inr ⟨sign, m, e, hm, rfl, (Option.some.inj h).symm⟩
  | infinity sign => cases h
  | notANumber => cases h

/-- An integer with at most 53 bits is packed without loss. -/
lemma value?_pack_round {sign : Sign} {m : Nat} {n : Int} {e : Int} (hn : n ≠ 0)
    (hlt : n.natAbs < 2 ^ 53) (h : (n : ℚ) = (sign.apply m : Int) * 2 ^ e) :
    value? (.ofModel (.pack (UnpackedFloat.round Format.binary64 sign m e))) = some (n : ℚ) := by
  obtain ⟨hvalue, hsign⟩ := apply_natAbs h
  have hpos : 0 < n.natAbs := by omega
  have hsize : n.natAbs.log2 < 53 := (Nat.log2_lt hpos.ne').2 hlt
  have hscaled := apply_shiftLeft sign n.natAbs (show (n.natAbs.log2 : Int) - 52 ≤ 0 by omega)
  have hshift : (0 - ((n.natAbs.log2 : Int) - 52)).toNat = 52 - n.natAbs.log2 := by omega
  rw [hshift, Nat.shiftLeft_eq, zpow_zero, mul_one, hsign] at hscaled
  rw [round_eq sign hpos hlt hvalue, (IsNormal.of_lt hpos hlt).value?_pack, hscaled]

/-- An exact result below the limit of whole doubles is not rounded. -/
lemma value?_pack_normalize {m n : Int} {e : Int} (h : (m : ℚ) * 2 ^ e = n)
    (hlt : n.natAbs < 2 ^ 53) :
    value? (.ofModel (.pack (UnpackedFloat.normalize Format.binary64 m e .positive))) =
      some (n : ℚ) := by
  have hne : m ≠ 0 → n ≠ 0 := by
    rintro hm rfl
    rw [Int.cast_zero, mul_eq_zero, Int.cast_eq_zero] at h
    exact h.elim hm (by positivity)
  unfold UnpackedFloat.normalize
  rcases lt_trichotomy m 0 with hneg | rfl | hpos
  · have hm : Sign.negative.apply (-m).toNat = m := by
      change -((-m).toNat : Int) = m
      omega
    rw [Int.compare_eq_lt.2 hneg]
    exact value?_pack_round (hne hneg.ne) hlt (by rw [hm, h])
  · have hn : (n : ℚ) = 0 := by simpa using h.symm
    rw [hn, Int.compare_eq_eq.2 rfl]
    change value? (.ofModel (.pack (.zero .positive))) = some 0
    rfl
  · have hm : Sign.positive.apply m.toNat = m := Int.toNat_of_nonneg hpos.le
    rw [Int.compare_eq_gt.2 hpos]
    exact value?_pack_round (hne hpos.ne') hlt (by rw [hm, h])

/-- Coordinates are whole doubles. -/
theorem isWhole_toDouble (n : Coordinate) : IsWhole n.toDouble n.toInt := by
  have hlow := n.le_toInt
  have hhigh := n.toInt_lt
  exact value?_pack_normalize (by simp) (by omega)

namespace IsWhole

variable {x y : Float} {a b : Int}

/-- A whole double other than zero has all its bits. -/
lemma isNormal {sign : Sign} {m : Nat} {e : Int} {hm : 0 < m}
    (hx : x.toModel.unpack = .finite sign m e hm) (h : (a : ℚ) = (sign.apply m : Int) * 2 ^ e) :
    IsNormal m e := by
  obtain ⟨hvalue, -⟩ := apply_natAbs h
  have hpos : 0 < a.natAbs := by
    have hsize : (0 : ℚ) < m * 2 ^ e := by positivity
    rw [hvalue] at hsize
    exact_mod_cast hsize
  refine (isNormal_or_of_unpack_eq hx).resolve_right ?_
  rintro ⟨hlt, rfl⟩
  -- with the least exponent, the leading bit would stand behind the point
  have hlog := log2_add_of_value hpos hvalue
  have hsize : m.log2 < 52 := (Nat.log2_lt hm.ne').2 hlt
  omega

/-- **The difference of whole doubles is exact** if it has at most 53 bits. -/
theorem sub (hx : IsWhole x a) (hy : IsWhole y b) (hlt : (a - b).natAbs < 2 ^ 53) :
    IsWhole (x - y) (a - b) := by
  have hsub : x - y = .ofModel (.pack (UnpackedFloat.sub Format.binary64 x.toModel.unpack
    y.toModel.unpack)) := rfl
  unfold IsWhole
  rw [hsub]
  rcases unpackedValue?_eq_some hx with ⟨s, hs, ha⟩ | ⟨s, m, e, hm, hs, ha⟩ <;>
    rcases unpackedValue?_eq_some hy with ⟨t, ht, hb⟩ | ⟨t, k, f, hk, ht, hb⟩
  · rw [hs, ht, Int.cast_sub, ha, hb, sub_zero]
    cases s <;> cases t <;> rfl
  · rw [hs, ht, Int.cast_sub, ha, hb]
    change value? (.ofModel (.pack (.finite (-t) k f hk))) = _
    rw [(isNormal ht hb).value?_pack (-t)]
    cases t <;> simp [Sign.apply]
  · rw [hs, ht, Int.cast_sub, ha, hb, sub_zero]
    exact (isNormal hs ha).value?_pack s
  · rw [hs, ht]
    refine value?_pack_normalize ?_ hlt
    rw [Int.cast_sub, sub_mul, apply_shiftLeft s m (min_le_left e f),
      apply_shiftLeft t k (min_le_right e f), Int.cast_sub, ha, hb]

/-- The coordinate of a whole double is the integer that it stands for, or the end of the range on
its side. -/
theorem ofDouble_eq (h : IsWhole x a) : Coordinate.ofDouble x = Int32.ofIntClamp a := by
  unfold Coordinate.ofDouble Float.Model.toInt32 UnpackedFloat.toInt32
  rcases unpackedValue?_eq_some h with ⟨s, hs, ha⟩ | ⟨s, m, e, hm, hs, ha⟩
  · have hzero : a = 0 := by exact_mod_cast ha
    rw [hs, hzero]
    rfl
  · obtain ⟨hvalue, hsign⟩ := apply_natAbs ha
    rw [hs]
    change Int32.ofIntClamp (roundToInt s m e) = _
    rw [roundToInt_eq s hvalue, hsign]

end IsWhole

end Compositor.Double
