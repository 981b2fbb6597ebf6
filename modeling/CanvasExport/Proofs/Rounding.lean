import CanvasExport.Binary.Decimal
import CanvasExport.Proofs.Decimal
import Mathlib.Algebra.Order.Field.Power
import Mathlib.Tactic.Linarith
import Mathlib.Tactic.Positivity
/-!
# Rounding as a function of the number

Rounding a quotient to a format depends on the quotient alone (`round_congr`), and a number of the
format is rounded to itself (`round_ratio`).  So does reading a decimal, since the bounds beyond which
no power of ten is computed agree with rounding (`ofDecimal_eq_round`): two decimals that stand for the
same number with the same sign are read as the same number of the format (`ofDecimal_congr`).  Hence
the shortest decimal of a number is read as the number, however it is written (`ofDecimal_shortest`).
-/

namespace CanvasExport

-- powers of naturals are the core library's
attribute [local instance (2000)] instPowNat

/-! ## Powers and quotients -/

/-- An integer power is a quotient of natural powers, one of which is one. -/
theorem zpow_eq_div_pow {b : ℚ} (hb : b ≠ 0) (e : Int) :
    b ^ e = b ^ e.toNat / b ^ (-e).toNat := by
  have he : (e.toNat : Int) - (-e).toNat = e := by omega
  rw [← zpow_natCast, ← zpow_natCast, ← zpow_sub₀ hb, he]

/-- Rounding a quotient depends on the quotient alone. -/
theorem divNearestEven_congr {a b a' b' : Nat} (hb : 0 < b) (hb' : 0 < b')
    (h : a * b' = a' * b) : divNearestEven a b = divNearestEven a' b' := by
  have hscale {a b c : Nat} (hc : 0 < c) :
      divNearestEven (a * c) (b * c) = divNearestEven a b := by
    have hlt (x y : Nat) : x * c < y * c ↔ x < y := Nat.mul_lt_mul_right hc
    unfold divNearestEven
    dsimp only
    rw [Nat.mul_div_mul_right a b hc, Nat.mul_mod_mul_right, ← Nat.mul_assoc]
    simp only [hlt]
  rw [← hscale hb', ← hscale hb (a := a'), h, Nat.mul_comm b b']

/-! ## The exponent of a quotient -/

/-- The test on naturals compares the quotient with a power of two. -/
theorem den_mul_le_num_mul_iff {num den : Nat} (hden : 0 < den) (k : Int) :
    den * 2 ^ k.toNat ≤ num * 2 ^ (-k).toNat ↔ (2 : ℚ) ^ k ≤ num / den := by
  have hden' : (0 : ℚ) < den := by exact_mod_cast hden
  rw [zpow_eq_div_pow two_ne_zero, div_le_div_iff₀ (by positivity) hden', ← Nat.cast_le (α := ℚ)]
  push_cast
  rw [mul_comm (den : ℚ)]

/-- A natural lies between two powers of two. -/
theorem two_zpow_log2_le {n : Nat} (hn : 0 < n) :
    (2 : ℚ) ^ (n.log2 : Int) ≤ n ∧ (n : ℚ) < (2 : ℚ) ^ ((n.log2 : Int) + 1) := by
  have hlow : 2 ^ n.log2 ≤ n := Nat.log2_self_le (by omega)
  have hhigh : n < 2 ^ (n.log2 + 1) := Nat.lt_log2_self
  constructor
  · rw [zpow_natCast]
    exact_mod_cast hlow
  · rw [← Nat.cast_succ, zpow_natCast]
    exact_mod_cast hhigh

/-- The exponent of a quotient is that of the greatest power of two that is not above it. -/
theorem log2Ratio_spec {num den : Nat} (hnum : 0 < num) (hden : 0 < den) :
    (2 : ℚ) ^ log2Ratio num den ≤ num / den ∧
      (num : ℚ) / den < (2 : ℚ) ^ (log2Ratio num den + 1) := by
  have hden' : (0 : ℚ) < den := by exact_mod_cast hden
  obtain ⟨hnumlow, hnumhigh⟩ := two_zpow_log2_le hnum
  obtain ⟨hdenlow, hdenhigh⟩ := two_zpow_log2_le hden
  set k : Int := (num.log2 : Int) - den.log2 with hk
  -- the exponents of numerator and denominator leave two candidates
  have hlow : (2 : ℚ) ^ (k - 1) ≤ num / den := by
    rw [le_div_iff₀ hden']
    calc (2 : ℚ) ^ (k - 1) * den ≤ 2 ^ (k - 1) * 2 ^ ((den.log2 : Int) + 1) := by gcongr
      _ = 2 ^ (num.log2 : Int) := by
          rw [← zpow_add₀ two_ne_zero]
          congr 1
          omega
      _ ≤ num := hnumlow
  have hhigh : (num : ℚ) / den < (2 : ℚ) ^ (k + 1) := by
    rw [div_lt_iff₀ hden']
    calc (num : ℚ) < 2 ^ ((num.log2 : Int) + 1) := hnumhigh
      _ = 2 ^ (k + 1) * 2 ^ (den.log2 : Int) := by
          rw [← zpow_add₀ two_ne_zero]
          congr 1
          omega
      _ ≤ 2 ^ (k + 1) * den := by gcongr
  unfold log2Ratio
  dsimp only
  rw [← hk]
  split
  · rename_i h
    exact ⟨(den_mul_le_num_mul_iff hden k).1 h, hhigh⟩
  · rename_i h
    rw [den_mul_le_num_mul_iff hden, not_le] at h
    refine ⟨hlow, ?_⟩
    rw [sub_add_cancel]
    exact h

/-- A power of two that is not above the quotient is not above its greatest one. -/
theorem le_log2Ratio {num den : Nat} (hnum : 0 < num) (hden : 0 < den) {k : Int}
    (h : (2 : ℚ) ^ k ≤ num / den) : k ≤ log2Ratio num den := by
  have hlt := lt_of_le_of_lt h (log2Ratio_spec hnum hden).2
  rw [zpow_lt_zpow_iff_right₀ one_lt_two] at hlt
  omega

/-- A power of two above the quotient is above its greatest one. -/
theorem log2Ratio_lt {num den : Nat} (hnum : 0 < num) (hden : 0 < den) {k : Int}
    (h : (num : ℚ) / den < (2 : ℚ) ^ k) : log2Ratio num den < k := by
  have hlt := lt_of_le_of_lt (log2Ratio_spec hnum hden).1 h
  rwa [zpow_lt_zpow_iff_right₀ one_lt_two] at hlt

/-- Equal quotients have equal exponents. -/
theorem log2Ratio_congr {num den num' den' : Nat} (hnum : 0 < num) (hden : 0 < den)
    (hnum' : 0 < num') (hden' : 0 < den') (h : (num : ℚ) / den = num' / den') :
    log2Ratio num den = log2Ratio num' den' := by
  apply le_antisymm
  · exact le_log2Ratio hnum' hden' (h ▸ (log2Ratio_spec hnum hden).1)
  · exact le_log2Ratio hnum hden (h ▸ (log2Ratio_spec hnum' hden').1)

/-- Zero has the least exponent. -/
theorem Format.exponent_of_canonical_zero {f : Format} {e : Int} (h : f.Canonical 0 e) :
    e = f.minExponent := by
  rcases h.2.2.2 with he | hfull
  · exact he
  · exact absurd hfull (Nat.not_le.2 (Nat.two_pow_pos _))

namespace Binary

variable {f : Format}

/-! ## Rounding -/

/-- Zero is rounded to zero. -/
theorem round_zero_left (negative : Bool) {den : Nat} (hden : 0 < den) :
    round f negative 0 den = zero negative := by
  have hm (k : Nat) : divNearestEven (0 * k) (den * 2 ^ f.minExponent.toNat) = 0 := by
    have hpos : 0 < den * 2 ^ f.minExponent.toNat := Nat.mul_pos hden (Nat.two_pow_pos _)
    rw [Nat.zero_mul]
    exact divNearestEven_mul_left 0 hpos
  have hne : (0 : Nat) ≠ 2 ^ f.precision := (Nat.two_pow_pos _).ne
  rw [round, lastBit, if_pos rfl, hm, if_neg hne, ofParts_eq_finite f.canonical_zero]
  rfl

/-- Rounding a quotient to a format depends on the quotient alone. -/
theorem round_congr (negative : Bool) {num den num' den' : Nat} (hden : 0 < den)
    (hden' : 0 < den') (hquot : (num : ℚ) / den = num' / den') :
    round f negative num den = round f negative num' den' := by
  have h : num * den' = num' * den := by
    rw [div_eq_div_iff (by exact_mod_cast hden.ne') (by exact_mod_cast hden'.ne')] at hquot
    exact_mod_cast hquot
  rcases Nat.eq_zero_or_pos num with rfl | hnum
  · have hzero : num' = 0 := by
      rw [Nat.zero_mul] at h
      exact (Nat.mul_eq_zero.1 h.symm).resolve_right hden.ne'
    rw [hzero, round_zero_left negative hden, round_zero_left negative hden']
  · have hnum' : 0 < num' := by
      refine Nat.pos_of_ne_zero fun hzero => ?_
      rw [hzero, Nat.zero_mul] at h
      exact (Nat.mul_pos hnum hden').ne' h
    have hbit : lastBit f num den = lastBit f num' den' := by
      rw [lastBit, lastBit, if_neg hnum.ne', if_neg hnum'.ne',
        log2Ratio_congr hnum hden hnum' hden' hquot]
    have hm : divNearestEven (num * 2 ^ (-lastBit f num' den').toNat)
          (den * 2 ^ (lastBit f num' den').toNat) =
        divNearestEven (num' * 2 ^ (-lastBit f num' den').toNat)
          (den' * 2 ^ (lastBit f num' den').toNat) := by
      apply divNearestEven_congr (Nat.mul_pos hden (Nat.two_pow_pos _))
        (Nat.mul_pos hden' (Nat.two_pow_pos _))
      rw [Nat.mul_mul_mul_comm num, Nat.mul_mul_mul_comm num', h]
    rw [round, round, hbit, hm]

/-- The two naturals make the magnitude. -/
theorem ratio_eq (m : Nat) (e : Int) :
    ((ratio m e).1 : ℚ) / (ratio m e).2 = m * (2 : ℚ) ^ e := by
  rw [ratio, zpow_eq_div_pow two_ne_zero]
  push_cast
  rw [mul_div_assoc]

theorem ratio_snd_pos (m : Nat) (e : Int) : 0 < (ratio m e).2 := Nat.two_pow_pos _

/-- The last bit of a number of the format is its own. -/
theorem lastBit_ratio (hp : 0 < f.precision) {m : Nat} {e : Int} (h : f.Canonical m e)
    (hm : 0 < m) : lastBit f (ratio m e).1 (ratio m e).2 = e := by
  obtain ⟨hlt, hmin, -, hfull⟩ := h
  have hnum : 0 < (ratio m e).1 := Nat.mul_pos hm (Nat.two_pow_pos _)
  have hden := ratio_snd_pos m e
  obtain ⟨hlow, hhigh⟩ := two_zpow_log2_le hm
  have hlog : log2Ratio (ratio m e).1 (ratio m e).2 = m.log2 + e := by
    apply le_antisymm
    · refine Int.le_of_lt_add_one (log2Ratio_lt hnum hden ?_)
      rw [ratio_eq, add_right_comm, zpow_add₀ two_ne_zero]
      gcongr
    · apply le_log2Ratio hnum hden
      rw [ratio_eq, zpow_add₀ two_ne_zero]
      gcongr
  have hbits : m.log2 < f.precision := (Nat.log2_lt hm.ne').2 hlt
  rw [lastBit, if_neg hnum.ne', hlog]
  rcases hfull with rfl | hfull
  · omega
  · have hfirst : f.precision - 1 ≤ m.log2 := (Nat.le_log2 hm.ne').2 hfull
    omega

/-- **A number of the format is rounded to itself.** -/
theorem round_ratio (hp : 0 < f.precision) (negative : Bool) {m : Nat} {e : Int}
    (h : f.Canonical m e) :
    round f negative (ratio m e).1 (ratio m e).2 = .finite negative m e h := by
  rcases Nat.eq_zero_or_pos m with rfl | hm
  · obtain rfl := Format.exponent_of_canonical_zero h
    have hnum : (ratio 0 f.minExponent).1 = 0 := Nat.zero_mul _
    rw [hnum, round_zero_left negative (ratio_snd_pos 0 _)]
    rfl
  · have hexact : divNearestEven ((ratio m e).1 * 2 ^ (-e).toNat)
        ((ratio m e).2 * 2 ^ e.toNat) = m := by
      have hpos : 0 < (ratio m e).2 * 2 ^ e.toNat :=
        Nat.mul_pos (ratio_snd_pos m e) (Nat.two_pow_pos _)
      have hnum : (ratio m e).1 * 2 ^ (-e).toNat = (ratio m e).2 * 2 ^ e.toNat * m := by
        simp only [ratio]
        rw [Nat.mul_assoc, Nat.mul_comm m, Nat.mul_comm (2 ^ e.toNat)]
      rw [hnum, divNearestEven_mul_left m hpos]
    have hne : m ≠ 2 ^ f.precision := h.1.ne
    rw [round, lastBit_ratio hp h hm, hexact, if_neg hne, ofParts_eq_finite h]

/-- The sign has no part in rounding. -/
theorem round_eq_finite_of_positive {num den m : Nat} {e : Int} {h : f.Canonical m e}
    (hround : round f false num den = .finite false m e h) (negative : Bool) :
    round f negative num den = .finite negative m e h := by
  have hparts {m' : Nat} {e' : Int}
      (hfinite : (ofParts false m' e' : Binary f) = .finite false m e h) :
      (ofParts negative m' e' : Binary f) = .finite negative m e h := by
    unfold ofParts at hfinite ⊢
    split at hfinite
    · rename_i hcanonical
      cases hfinite
      rw [dif_pos hcanonical]
    · cases hfinite
  unfold round at hround ⊢
  dsimp only at hround ⊢
  split at hround
  · rename_i hm
    rw [if_pos hm]
    exact hparts hround
  · rename_i hm
    rw [if_neg hm]
    exact hparts hround

/-! ## Numbers beyond the format -/

/-- Nothing in the format has an exponent beyond the greatest one. -/
theorem ofParts_of_lt {e : Int} (h : f.maxExponent < e) (negative : Bool) (m : Nat) :
    (ofParts negative m e : Binary f) = .infinite negative :=
  dif_neg fun hcanonical => absurd hcanonical.2.2.1 (by omega)

/-- What is beyond all numbers of the format is infinite. -/
theorem round_of_le (hp : 0 < f.precision) (negative : Bool) {num den : Nat} (hden : 0 < den)
    (h : (2 : ℚ) ^ (f.maxExponent + f.precision) ≤ num / den) :
    round f negative num den = .infinite negative := by
  have hnum : 0 < num := by
    refine Nat.pos_of_ne_zero fun hzero => ?_
    have hpos : (0 : ℚ) < (2 : ℚ) ^ (f.maxExponent + f.precision) := by positivity
    rw [hzero, Nat.cast_zero, zero_div] at h
    exact absurd h (not_le.2 hpos)
  have hlog := le_log2Ratio hnum hden h
  have hbit : f.maxExponent < lastBit f num den := by
    rw [lastBit, if_neg hnum.ne']
    omega
  unfold round
  dsimp only
  split
  · exact ofParts_of_lt (by omega) negative _
  · exact ofParts_of_lt hbit negative _

/-- What is less than half of the smallest number of the format is zero. -/
theorem round_of_lt (hmin : f.minExponent ≤ 0) (negative : Bool) {num den : Nat} (hnum : 0 < num)
    (hden : 0 < den) (h : (num : ℚ) / den < (2 : ℚ) ^ (f.minExponent - 1)) :
    round f negative num den = zero negative := by
  have hlog := log2Ratio_lt hnum hden h
  have hbit : lastBit f num den = f.minExponent := by
    rw [lastBit, if_neg hnum.ne']
    omega
  have hlt : 2 * (num * 2 ^ (-f.minExponent).toNat) < den * 2 ^ f.minExponent.toNat := by
    rw [← not_le, ← den_mul_le_num_mul_iff hden, not_le] at h
    have hlow : (f.minExponent - 1).toNat = f.minExponent.toNat := by omega
    have hhigh : (-(f.minExponent - 1)).toNat = (-f.minExponent).toNat + 1 := by omega
    rw [hlow, hhigh, Nat.pow_succ] at h
    calc 2 * (num * 2 ^ (-f.minExponent).toNat) = num * (2 ^ (-f.minExponent).toNat * 2) := by
          rw [Nat.mul_comm 2, Nat.mul_assoc]
      _ < den * 2 ^ f.minExponent.toNat := h
  have hm : divNearestEven (num * 2 ^ (-f.minExponent).toNat) (den * 2 ^ f.minExponent.toNat) =
      0 := by
    rw [divNearestEven, Nat.mod_eq_of_lt (by omega), if_pos hlt]
    exact Nat.div_eq_of_lt (by omega)
  have hne : (0 : Nat) ≠ 2 ^ f.precision := (Nat.two_pow_pos _).ne
  rw [round, hbit, hm, if_neg hne, ofParts_eq_finite f.canonical_zero]
  rfl

end Binary

/-! ## Decimals -/

/-- The format has a bit, and numbers on both sides of one. -/
structure Format.Spans (f : Format) : Prop where
  precision_pos : 0 < f.precision
  minExponent_nonpos : f.minExponent ≤ 0
  maxExponent_nonneg : 0 ≤ f.maxExponent

theorem Format.spans_double : Format.double.Spans := by constructor <;> decide

/-- Normalizing keeps the sign. -/
@[simp] theorem Decimal.normalize_negative (d : Decimal) : d.normalize.negative = d.negative := by
  unfold normalize
  split_ifs <;> rfl

namespace Binary

variable {f : Format}

/-- The two naturals that are rounded for a decimal make its magnitude. -/
theorem decimal_ratio_eq (s : Nat) (e : Int) :
    ((s * 10 ^ e.toNat : Nat) : ℚ) / (10 ^ (-e).toNat : Nat) = s * (10 : ℚ) ^ e := by
  rw [zpow_eq_div_pow (by norm_num)]
  push_cast
  rw [mul_div_assoc]

/-- **Reading a decimal is rounding it.**  The bounds beyond which no power of ten is computed change
nothing. -/
theorem ofDecimal_eq_round (hf : f.Spans) {d : Decimal} (hs : d.significand ≠ 0) :
    ofDecimal f d = round f d.negative (d.significand * 10 ^ d.exponent.toNat)
      (10 ^ (-d.exponent).toNat) := by
  obtain ⟨hp, hmin, hmax⟩ := hf
  have hspos : 0 < d.significand := Nat.pos_of_ne_zero hs
  have hnum : 0 < d.significand * 10 ^ d.exponent.toNat :=
    Nat.mul_pos hspos (Nat.pow_pos (by decide))
  have hden : 0 < 10 ^ (-d.exponent).toNat := Nat.pow_pos (by decide)
  rw [ofDecimal, if_neg hs]
  split
  · rename_i hbig
    refine (round_of_le hp d.negative hden ?_).symm
    rw [decimal_ratio_eq]
    have hone : (1 : ℚ) ≤ d.significand := by exact_mod_cast hspos
    calc (2 : ℚ) ^ (f.maxExponent + f.precision) ≤ 2 ^ d.exponent :=
          zpow_le_zpow_right₀ one_le_two hbig.le
      _ ≤ 10 ^ d.exponent := zpow_le_zpow_left₀ (by omega) (by norm_num) (by norm_num)
      _ ≤ d.significand * 10 ^ d.exponent := le_mul_of_one_le_left (by positivity) hone
  · split
    · rename_i hsmall
      refine (round_of_lt hmin d.negative hnum hden ?_).symm
      rw [decimal_ratio_eq]
      have hexp : d.exponent ≤ 0 := by omega
      have hten : (10 : ℚ) ^ d.exponent ≤ 2 ^ (3 * d.exponent) := by
        obtain ⟨k, hk⟩ := Int.eq_ofNat_of_zero_le (neg_nonneg.mpr hexp)
        rw [zpow_mul, show d.exponent = -(k : Int) by omega, zpow_neg, zpow_neg, zpow_natCast,
          zpow_natCast]
        gcongr
        norm_num
      calc (d.significand : ℚ) * 10 ^ d.exponent
          < 2 ^ ((d.significand.log2 : Int) + 1) * 10 ^ d.exponent := by
            have hlog := (two_zpow_log2_le hspos).2
            gcongr
        _ ≤ 2 ^ ((d.significand.log2 : Int) + 1) * 2 ^ (3 * d.exponent) := by gcongr
        _ = 2 ^ ((d.significand.log2 : Int) + 1 + 3 * d.exponent) :=
            (zpow_add₀ two_ne_zero _ _).symm
        _ ≤ 2 ^ (f.minExponent - 1) := zpow_le_zpow_right₀ one_le_two hsmall.le
    · rfl

/-- The magnitude of a decimal. -/
theorem abs_value_eq (d : Decimal) : |d.value| = d.significand * (10 : ℚ) ^ d.exponent := by
  have hpos : (0 : ℚ) ≤ d.significand * (10 : ℚ) ^ d.exponent := by positivity
  rw [Decimal.value, mul_assoc]
  cases d.negative <;> simp [abs_of_nonneg hpos]

/-- A decimal without digits stands for zero, and no other one does. -/
theorem value_eq_zero_iff (d : Decimal) : d.value = 0 ↔ d.significand = 0 := by
  have hpow : (10 : ℚ) ^ d.exponent ≠ 0 := zpow_ne_zero _ (by norm_num)
  rw [← abs_eq_zero, abs_value_eq, mul_eq_zero_iff_right hpow, Nat.cast_eq_zero]

/-- **Decimals that stand for the same number are read as the same.** -/
theorem ofDecimal_congr (hf : f.Spans) {d d' : Decimal} (hsign : d.negative = d'.negative)
    (hvalue : d.value = d'.value) : ofDecimal f d = ofDecimal f d' := by
  by_cases hs : d.significand = 0
  · have hs' : d'.significand = 0 := by
      rw [← value_eq_zero_iff, ← hvalue, value_eq_zero_iff, hs]
    rw [ofDecimal, ofDecimal, if_pos hs, if_pos hs', hsign]
  · have hs' : d'.significand ≠ 0 := fun h => hs (by
      rw [← value_eq_zero_iff, hvalue, value_eq_zero_iff, h])
    rw [ofDecimal_eq_round hf hs, ofDecimal_eq_round hf hs', hsign]
    apply round_congr d'.negative (Nat.pow_pos (by decide)) (Nat.pow_pos (by decide))
    rw [decimal_ratio_eq, decimal_ratio_eq, ← abs_value_eq, ← abs_value_eq, hvalue]

/-- The sign of a decimal is that of the number it is read as. -/
theorem ofDecimal_eq_finite_of_positive (hf : f.Spans) {s m : Nat} {k e : Int}
    {h : f.Canonical m e} (hread : ofDecimal f ⟨false, s, k⟩ = .finite false m e h)
    (negative : Bool) : ofDecimal f ⟨negative, s, k⟩ = .finite negative m e h := by
  by_cases hs : s = 0
  · rw [ofDecimal, if_pos hs] at hread ⊢
    cases hread
    rfl
  · rw [ofDecimal_eq_round hf (d := ⟨_, s, k⟩) hs] at hread ⊢
    exact round_eq_finite_of_positive hread negative

/-- The decimal expansion of a magnitude has no sign. -/
@[simp] theorem expansion_negative (m : Nat) (e : Int) : (expansion m e).negative = false := by
  unfold expansion Decimal.halved
  split_ifs <;> rw [Decimal.normalize_negative]

/-- The decimal expansion of a number of the format is read as the number. -/
theorem ofDecimal_expansion (hf : f.Spans) {m : Nat} {e : Int} (h : f.Canonical m e)
    (hm : m ≠ 0) : ofDecimal f (expansion m e) = .finite false m e h := by
  have hvalue : (expansion m e).value = m * (2 : ℚ) ^ e := by
    unfold expansion
    split
    · rename_i he
      rw [Decimal.value_normalize, Decimal.value, zpow_eq_div_pow two_ne_zero]
      have hneg : (-e).toNat = 0 := by omega
      simp [hneg]
    · rename_i he
      rw [Decimal.value_halved, zpow_eq_div_pow two_ne_zero]
      have hpos : e.toNat = 0 := by omega
      simp [hpos, div_eq_mul_inv]
  have habs : |(expansion m e).value| = m * (2 : ℚ) ^ e := by
    rw [hvalue]
    exact abs_of_nonneg (by positivity)
  have hs : (expansion m e).significand ≠ 0 := by
    rw [Ne, ← value_eq_zero_iff, hvalue]
    positivity
  rw [ofDecimal_eq_round hf hs, expansion_negative, ← round_ratio hf.precision_pos false h]
  apply round_congr false (Nat.pow_pos (by decide)) (ratio_snd_pos m e)
  rw [decimal_ratio_eq, ratio_eq, ← abs_value_eq, habs]

/-! ## The shortest decimal -/

/-- A candidate is taken only if it is read as the number. -/
theorem readsBackAt_spec {tie : Tie} {x : Binary f} {num den : Nat} {exponent : Int} {d : Decimal}
    (h : readsBackAt tie x num den exponent = some d) :
    ofDecimal f d = x ∧ d.negative = false := by
  unfold readsBackAt at h
  dsimp only at h
  split at h
  · rename_i hbelow
    split at h
    · rename_i habove
      -- of two candidates that are read as the number either is taken
      obtain rfl := Option.some.inj h
      split
      · exact ⟨hbelow, rfl⟩
      · split
        · exact ⟨habove, rfl⟩
        · cases tie with
          | up => exact ⟨habove, rfl⟩
          | even =>
              dsimp only
              split
              · exact ⟨hbelow, rfl⟩
              · exact ⟨habove, rfl⟩
    · obtain rfl := Option.some.inj h
      exact ⟨hbelow, rfl⟩
  · split at h
    · rename_i habove
      obtain rfl := Option.some.inj h
      exact ⟨habove, rfl⟩
    · cases h

/-- The shortest decimal of a positive number is read as the number. -/
theorem ofDecimal_shortestMagnitude (hf : f.Spans) (tie : Tie) {m : Nat} {e : Int}
    (h : f.Canonical m e) (hm : m ≠ 0) :
    ofDecimal f (shortestMagnitude tie m e h) = .finite false m e h ∧
      (shortestMagnitude tie m e h).negative = false := by
  unfold shortestMagnitude
  dsimp only
  split
  · rename_i d hd
    obtain ⟨digits, -, hdigits⟩ := List.exists_of_findSome?_eq_some hd
    obtain ⟨hread, hnegative⟩ := readsBackAt_spec hdigits
    have hsign := d.normalize_negative
    exact ⟨(ofDecimal_congr hf hsign d.value_normalize).trans hread, hsign.trans hnegative⟩
  · exact ⟨ofDecimal_expansion hf h hm, expansion_negative m e⟩

/-- **The shortest decimal of a number is read as the number.** -/
theorem ofDecimal_shortest (hf : f.Spans) (tie : Tie) (negative : Bool) {m : Nat} {e : Int}
    (h : f.Canonical m e) :
    ofDecimal f (shortest tie negative m e h) = .finite negative m e h := by
  unfold shortest
  split
  · rename_i hm
    subst hm
    obtain rfl := Format.exponent_of_canonical_zero h
    rw [ofDecimal, if_pos rfl]
    rfl
  · rename_i hm
    obtain ⟨hread, hnegative⟩ := ofDecimal_shortestMagnitude hf tie h hm
    apply ofDecimal_eq_finite_of_positive hf
    rw [← hnegative] at hread ⊢
    exact hread

end Binary

end CanvasExport
