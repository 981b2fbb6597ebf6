import CanvasExport.Color
import CanvasExport.Proofs.Exact
import Mathlib.Data.Rat.Floor
/-!
# Rounding to an integer and to an alpha value

What is computed from the sign, the significand and the exponent of a finite number is a function of its
value: the sign and the comparison with one (`Binary.isNegative_iff`, `Binary.belowOne_iff`), the nearest
integer and the integer without the fraction within bounds (`Binary.roundWithin_eq`,
`Binary.truncateWithin_eq`), and the alpha value, which is the number of single precision nearest to the
number between zero and one (`Rgba.alphaOf_eq`).
-/

namespace CanvasExport

-- powers of naturals are the core library's
attribute [local instance (2000)] instPowNat

/-! ## Integers beside a number -/

/-- The magnitude of the number with `c` added, without its fraction and under the sign of the number. -/
def wholeWith (c q : ℚ) : ℤ := if q < 0 then -⌊-q + c⌋ else ⌊q + c⌋

section

variable {c : ℚ}

/-- What is not less than zero is its own magnitude. -/
theorem wholeWith_of_nonneg {q : ℚ} (h : 0 ≤ q) : wholeWith c q = ⌊q + c⌋ := if_neg h.not_gt

/-- The sign has no part in it. -/
theorem wholeWith_neg (hc : 0 ≤ c) (hc' : c < 1) (q : ℚ) : wholeWith c (-q) = -wholeWith c q := by
  rcases lt_trichotomy q 0 with h | rfl | h
  · rw [wholeWith_of_nonneg (neg_pos.2 h).le, wholeWith, if_pos h, neg_neg]
  · rw [neg_zero, wholeWith_of_nonneg le_rfl, zero_add, Int.floor_eq_zero_iff.2 ⟨hc, hc'⟩, neg_zero]
  · rw [wholeWith_of_nonneg h.le, wholeWith, if_pos (neg_lt_zero.2 h), neg_neg]

theorem wholeWith_nonneg (hc : 0 ≤ c) {q : ℚ} (h : 0 ≤ q) : 0 ≤ wholeWith c q := by
  rw [wholeWith_of_nonneg h]
  exact Int.floor_nonneg.2 (add_nonneg h hc)

theorem wholeWith_nonpos (hc : 0 ≤ c) (hc' : c < 1) {q : ℚ} (h : q ≤ 0) : wholeWith c q ≤ 0 := by
  have hneg := wholeWith_nonneg hc (neg_nonneg.2 h)
  rw [wholeWith_neg hc hc'] at hneg
  omega

/-- The order of numbers is kept. -/
theorem wholeWith_mono (hc : 0 ≤ c) (hc' : c < 1) {q r : ℚ} (h : q ≤ r) :
    wholeWith c q ≤ wholeWith c r := by
  -- on one side of zero the magnitudes are compared
  have hside {q r : ℚ} (hq : 0 ≤ q) (h : q ≤ r) : wholeWith c q ≤ wholeWith c r := by
    rw [wholeWith_of_nonneg hq, wholeWith_of_nonneg (hq.trans h)]
    apply Int.floor_le_floor
    linarith
  rcases le_total 0 q with hq | hq
  · exact hside hq h
  · rcases le_total 0 r with hr | hr
    · exact (wholeWith_nonpos hc hc' hq).trans (wholeWith_nonneg hc hr)
    · have hneg := hside (neg_nonneg.2 hr) (neg_le_neg h)
      rw [wholeWith_neg hc hc', wholeWith_neg hc hc'] at hneg
      omega

/-- An integer is left alone. -/
theorem wholeWith_intCast (hc : 0 ≤ c) (hc' : c < 1) (n : ℤ) : wholeWith c n = n := by
  wlog hn : 0 ≤ n generalizing n with hside
  · have hneg := hside (-n) (by omega)
    rw [Int.cast_neg, wholeWith_neg hc hc'] at hneg
    omega
  rw [wholeWith_of_nonneg (Int.cast_nonneg hn), Int.floor_intCast_add,
    Int.floor_eq_zero_iff.2 ⟨hc, hc'⟩, add_zero]

end

/-- The nearest integer, a half away from zero. -/
def roundAway (q : ℚ) : ℤ := if q < 0 then -⌊-q + 1 / 2⌋ else ⌊q + 1 / 2⌋

/-- It is the whole part of the magnitude and a half. -/
theorem roundAway_eq_wholeWith (q : ℚ) : roundAway q = wholeWith (1 / 2) q := rfl

/-- A natural is its own nearest integer. -/
theorem roundAway_natCast (n : Nat) : roundAway n = n :=
  wholeWith_intCast (by norm_num) (by norm_num) n

example : [5 / 2, 2.4, -5 / 2, -2.4, -0.1].map roundAway = [3, 2, -3, -2, 0] := by decide +kernel

namespace Binary

variable {f : Format}

/-! ## Signs -/

/-- A magnitude is positive where the significand is not zero. -/
theorem magnitude_pos_iff (m : Nat) (e : Int) : 0 < (m : ℚ) * (2 : ℚ) ^ e ↔ m ≠ 0 := by
  rw [mul_pos_iff_of_pos_right (zpow_pos two_pos e), Nat.cast_pos, Nat.pos_iff_ne_zero]

theorem magnitude_nonneg (m : Nat) (e : Int) : 0 ≤ (m : ℚ) * (2 : ℚ) ^ e :=
  mul_nonneg (Nat.cast_nonneg m) (zpow_pos two_pos e).le

/-- A finite number is less than zero where its sign says so. -/
theorem isNegative_iff {x : Binary f} (h : x.isFinite = true) : x.isNegative = true ↔ x.value < 0 := by
  cases x with
  | nan => cases h
  | infinite negative => cases h
  | finite negative m e hcanonical =>
      have hpos := magnitude_pos_iff m e
      have hnonneg := magnitude_nonneg m e
      cases negative with
      | true => simpa [isNegative, value] using hpos.symm
      | false => simpa [isNegative, value] using hnonneg

/-- A finite number is less than one where it is negative, or its magnitude is less than one. -/
theorem belowOne_iff {x : Binary f} (h : x.isFinite = true) : x.belowOne = true ↔ x.value < 1 := by
  cases x with
  | nan => cases h
  | infinite negative => cases h
  | finite negative m e hcanonical =>
      have hnonneg := magnitude_nonneg m e
      cases negative with
      | true =>
          have hlt : -((m : ℚ) * (2 : ℚ) ^ e) < 1 := by linarith
          simpa [belowOne, value] using hlt
      | false =>
          have hden : (0 : ℚ) < (ratio m e).2 := by exact_mod_cast ratio_snd_pos m e
          have hratio : (ratio m e).1 < (ratio m e).2 ↔ (m : ℚ) * (2 : ℚ) ^ e < 1 := by
            rw [← ratio_eq, div_lt_one hden, Nat.cast_lt]
          simpa [belowOne, value] using hratio

/-! ## The nearest integer -/

/-- The quotient that is computed is the magnitude and a half, without the fraction. -/
theorem floor_magnitude (m : Nat) (e : Int) :
    ⌊(m : ℚ) * (2 : ℚ) ^ e + 1 / 2⌋ =
      ((2 * (ratio m e).1 + (ratio m e).2) / (2 * (ratio m e).2) : Nat) := by
  have hden : ((ratio m e).2 : ℚ) ≠ 0 := by exact_mod_cast (ratio_snd_pos m e).ne'
  have hquot : (m : ℚ) * (2 : ℚ) ^ e + 1 / 2 =
      ((2 * (ratio m e).1 + (ratio m e).2 : Nat) : ℚ) / (2 * (ratio m e).2 : Nat) := by
    rw [← ratio_eq]
    push_cast
    field_simp
  rw [hquot, Rat.floor_natCast_div_natCast]
  push_cast
  rfl

/-- What is computed from the magnitude is put under the sign of the value. -/
theorem signed_eq_wholeWith {c : ℚ} (hc : 0 ≤ c) (hc' : c < 1) (negative : Bool) {m n : Nat} {e : Int}
    (h : f.Canonical m e) (hn : ⌊(m : ℚ) * (2 : ℚ) ^ e + c⌋ = n) :
    nearestInt.signed negative n = wholeWith c (value (.finite negative m e h)) := by
  have hmagnitude : wholeWith c (m * (2 : ℚ) ^ e) = n := by
    rw [wholeWith_of_nonneg (magnitude_nonneg m e), hn]
  have hvalue : value (.finite negative m e h) =
      (if negative then -1 else 1) * ((m : ℚ) * (2 : ℚ) ^ e) := rfl
  rw [hvalue]
  cases negative with
  | false =>
      rw [if_neg Bool.false_ne_true, one_mul, hmagnitude]
      rfl
  | true =>
      rw [if_pos rfl, neg_one_mul, wholeWith_neg hc hc', hmagnitude]
      rfl

/-- The nearest integer is that of the value. -/
theorem nearestInt_eq (negative : Bool) {m : Nat} {e : Int} (h : f.Canonical m e) :
    nearestInt negative m e = roundAway (value (.finite negative m e h)) :=
  signed_eq_wholeWith (by norm_num) (by norm_num) negative h (floor_magnitude m e)

/-- The integer without the fraction is that of the value. -/
theorem truncatedInt_eq (negative : Bool) {m : Nat} {e : Int} (h : f.Canonical m e) :
    truncatedInt negative m e = wholeWith 0 (value (.finite negative m e h)) := by
  apply signed_eq_wholeWith le_rfl one_pos negative h
  rw [add_zero, ← ratio_eq, Rat.floor_natCast_div_natCast]
  rfl

/-- An integer within bounds is that of the value, where it is without them. -/
theorem wholeWithin_eq {whole : Bool → Nat → Int → Int} {toWhole : ℚ → ℤ}
    (hwhole : ∀ negative m e (h : f.Canonical m e),
      whole negative m e = toWhole (value (.finite negative m e h)))
    {x : Binary f} (h : x.isFinite = true) (lo hi : ℤ) :
    x.wholeWithin whole lo hi = max lo (min hi (toWhole x.value)) := by
  cases x with
  | nan => cases h
  | infinite negative => cases h
  | finite negative m e hcanonical => rw [wholeWithin, hwhole negative m e hcanonical, clampInt]

/-- **The nearest integer within bounds is that of the value.** -/
theorem roundWithin_eq {x : Binary f} (h : x.isFinite = true) (lo hi : ℤ) :
    x.roundWithin lo hi = max lo (min hi (roundAway x.value)) :=
  wholeWithin_eq (fun negative _ _ h => nearestInt_eq negative h) h lo hi

/-- **So is the integer without the fraction.** -/
theorem truncateWithin_eq {x : Binary f} (h : x.isFinite = true) (lo hi : ℤ) :
    x.truncateWithin lo hi = max lo (min hi (wholeWith 0 x.value)) :=
  wholeWithin_eq (fun negative _ _ h => truncatedInt_eq negative h) h lo hi

/-! ## Between zero and one -/

/-- A number times one is the number. -/
theorem scale_one (hp : 0 < f.precision) (x : Binary f) : x.scale 1 1 = x := by
  cases x with
  | nan => rfl
  | infinite negative => rfl
  | finite negative m e h => rw [scale, Nat.mul_one, Nat.mul_one, round_ratio hp negative h]

/-- The number between zero and one that is nearest to a number. -/
def clampUnit (x : Binary f) : Binary f :=
  if x.value < 0 then zero false else if 1 < x.value then ofInt f 1 else x

/-- Zero is zero in single precision as well. -/
theorem convert_zero (negative : Bool) : (zero negative : Double).convert .single = zero negative := by
  have hnum : (ratio 0 Format.double.minExponent).1 = 0 := Nat.zero_mul _
  rw [zero, convert, hnum, round_zero_left negative (ratio_snd_pos 0 _)]

/-- One is exact. -/
theorem value_one : (ofInt .double 1).value = 1 := by
  have hholds : Format.double.Holds (1 : Int).natAbs :=
    ⟨1, 0, by decide, by decide, by decide, by norm_num⟩
  rw [(isExactly_ofInt (by decide) hholds).value_eq]
  norm_num

/-- A number with the value one is one in single precision as well. -/
theorem convert_of_value_eq_one {x : Double} (h : x.value = 1) :
    x.convert .single = ofInt .single 1 := by
  cases x with
  | nan => cases h
  | infinite negative => cases h
  | finite negative m e hcanonical =>
      have hnonneg := magnitude_nonneg m e
      cases negative with
      | true =>
          have hneg : -((m : ℚ) * (2 : ℚ) ^ e) = 1 := by simpa [value] using h
          linarith
      | false =>
          have hone : (m : ℚ) * (2 : ℚ) ^ e = 1 := by simpa [value] using h
          refine round_congr false (ratio_snd_pos m e) Nat.one_pos ?_
          rw [ratio_eq, hone]
          norm_num

end Binary

/-- **The alpha value is the number between zero and one in single precision.** -/
theorem Rgba.alphaOf_eq {x : Double} (h : x.isFinite = true) :
    alphaOf x = x.clampUnit.convert .single := by
  rw [alphaOf, Binary.clampUnit]
  simp only [Binary.isNegative_iff h, Binary.belowOne_iff h]
  by_cases hnegative : x.value < 0
  · rw [if_pos hnegative, if_pos hnegative]
    exact (Binary.convert_zero false).symm
  rw [if_neg hnegative, if_neg hnegative]
  rcases lt_trichotomy x.value 1 with hlt | heq | hgt
  · rw [if_pos hlt, if_neg hlt.le.not_gt]
  · rw [if_neg heq.not_lt, if_neg heq.symm.not_lt, Binary.convert_of_value_eq_one heq]
  · rw [if_neg hgt.le.not_gt, if_pos hgt]
    exact (Binary.convert_of_value_eq_one Binary.value_one).symm

end CanvasExport
