import CanvasExport.Proofs.Rounding
/-!
# Numbers that are exact

A finite number of a format has a value, a rational number.  A format holds the numbers that have a
significand of few enough bits with an exponent within its bounds (`Format.Holds`), and what it holds is
exact when it is rounded (`Binary.isExactly_round`).  So an integer of few enough bits is exact, and a
product is where the format holds it.
-/

namespace CanvasExport

-- powers of naturals are the core library's
attribute [local instance (2000)] instPowNat

/-! ## What a format holds -/

/-- The magnitude has a significand that the format has bits for, and an exponent within its bounds. -/
def Format.Holds (f : Format) (q : ℚ) : Prop :=
  ∃ (m : Nat) (e : Int), m < 2 ^ f.precision ∧ f.minExponent ≤ e ∧ e ≤ f.maxExponent ∧
    q = m * (2 : ℚ) ^ e

/-- What a format holds it holds in canonical form. -/
theorem Format.Holds.exists_canonical {f : Format} {q : ℚ} (h : f.Holds q) :
    ∃ (m : Nat) (e : Int), f.Canonical m e ∧ m * (2 : ℚ) ^ e = q := by
  obtain ⟨m, e, hlt, hmin, hmax, rfl⟩ := h
  rcases Nat.eq_zero_or_pos m with rfl | hm
  · exact ⟨0, f.minExponent, f.canonical_zero, by simp⟩
  -- the significand is moved up as far as its bits and the exponent allow
  set shift := min (f.precision - 1 - m.log2) (e - f.minExponent).toNat with hshift
  have hbits : m.log2 < f.precision := (Nat.log2_lt hm.ne').2 hlt
  refine ⟨m * 2 ^ shift, e - shift, ⟨?_, by omega, by omega, ?_⟩, ?_⟩
  · calc m * 2 ^ shift < 2 ^ (m.log2 + 1) * 2 ^ shift :=
          Nat.mul_lt_mul_of_pos_right Nat.lt_log2_self (Nat.two_pow_pos _)
      _ = 2 ^ (m.log2 + 1 + shift) := (Nat.pow_add _ _ _).symm
      _ ≤ 2 ^ f.precision := Nat.pow_le_pow_right (by decide) (by omega)
  · rcases Nat.le_total (f.precision - 1 - m.log2) (e - f.minExponent).toNat with hle | hle
    · right
      calc 2 ^ (f.precision - 1) = 2 ^ (m.log2 + shift) := by
            congr 1
            omega
        _ = 2 ^ m.log2 * 2 ^ shift := Nat.pow_add _ _ _
        _ ≤ m * 2 ^ shift := Nat.mul_le_mul_right _ (Nat.log2_self_le hm.ne')
    · left
      omega
  · rw [zpow_sub₀ two_ne_zero, zpow_natCast]
    push_cast
    field_simp

namespace Binary

variable {f : Format}

/-! ## Values -/

/-- The number as a rational; what is not finite counts as zero. -/
def value : Binary f → ℚ
  | .finite negative m e _ => (if negative then -1 else 1) * (m * (2 : ℚ) ^ e)
  | _ => 0

/-- The number has this sign and this magnitude. -/
def IsExactly (x : Binary f) (negative : Bool) (q : ℚ) : Prop :=
  ∃ m e h, x = .finite negative m e h ∧ m * (2 : ℚ) ^ e = q

theorem IsExactly.isFinite {x : Binary f} {negative : Bool} {q : ℚ} (h : x.IsExactly negative q) :
    x.isFinite = true := by
  obtain ⟨m, e, h, rfl, -⟩ := h
  rfl

theorem IsExactly.value_eq {x : Binary f} {negative : Bool} {q : ℚ} (h : x.IsExactly negative q) :
    x.value = (if negative then -1 else 1) * q := by
  obtain ⟨m, e, h, rfl, rfl⟩ := h
  rfl

/-! ## Exact results -/

/-- **What a format holds is not changed by rounding.** -/
theorem isExactly_round (hp : 0 < f.precision) (negative : Bool) {num den : Nat} (hden : 0 < den)
    {q : ℚ} (hq : (num : ℚ) / den = q) (h : f.Holds q) :
    (round f negative num den).IsExactly negative q := by
  obtain ⟨m, e, hcanonical, hvalue⟩ := h.exists_canonical
  refine ⟨m, e, hcanonical, ?_, hvalue⟩
  rw [← round_ratio hp negative hcanonical]
  apply round_congr negative hden (ratio_snd_pos m e)
  rw [ratio_eq, hvalue, hq]

/-- An integer is exact where the format holds it. -/
theorem isExactly_ofInt (hp : 0 < f.precision) {n : Int} (h : f.Holds n.natAbs) :
    (ofInt f n).IsExactly (n < 0) n.natAbs :=
  isExactly_round hp _ Nat.one_pos (by rw [Nat.cast_one, div_one]) h

/-- A product with a quotient is exact where the format holds it. -/
theorem IsExactly.scale {x : Binary f} {negative : Bool} {q : ℚ} (hx : x.IsExactly negative q)
    (hp : 0 < f.precision) (num : Nat) {den : Nat} (hden : 0 < den) (h : f.Holds (q * num / den)) :
    (x.scale num den).IsExactly negative (q * num / den) := by
  obtain ⟨m, e, hcanonical, rfl, rfl⟩ := hx
  refine isExactly_round hp _ (Nat.mul_pos (ratio_snd_pos m e) hden) ?_ h
  rw [← ratio_eq]
  push_cast
  rw [mul_div_mul_comm, mul_div_assoc]

/-- A decimal is exact where the format holds its magnitude. -/
theorem isExactly_ofDecimal (hf : f.Spans) {d : Decimal} (h : f.Holds |d.value|) :
    (ofDecimal f d).IsExactly d.negative |d.value| := by
  by_cases hs : d.significand = 0
  · have hzero : |d.value| = 0 := by rw [(value_eq_zero_iff d).2 hs, abs_zero]
    rw [ofDecimal, if_pos hs, hzero]
    exact ⟨0, f.minExponent, f.canonical_zero, rfl, by simp⟩
  · rw [ofDecimal_eq_round hf hs]
    refine isExactly_round hf.precision_pos _ (Nat.pow_pos (by decide)) ?_ h
    rw [decimal_ratio_eq, abs_value_eq]

end Binary

end CanvasExport
