import CanvasExport.Proofs.Numeral
/-!
# Decimal expansions

A decimal is reduced when its significand does not end in zero (`Decimal.IsReduced`); normalizing reduces
(`Decimal.isReduced_normalize`).  The text of a reduced decimal with all digits written out is the
expansion of its number (`Decimal.isExpansion_positional`): no digit of it can be left out, and the
number can be told from it (`Decimal.IsExpansion.value_unique`).
-/

namespace CanvasExport

-- powers of naturals are the core library's
attribute [local instance (2000)] instPowNat

namespace Decimal

/-! ## Zeros at the end -/

/-- One digit other than zero ends in no zero. -/
theorem trailingZeros_of_lt {n : Nat} (hpos : 0 < n) (hlt : n < 10) : trailingZeros n = 0 := by
  have hdigit : (Nat.digitChar n == '0') = false := by
    simp [hpos.ne']
  rw [trailingZeros, Nat.toDigits_of_lt_base hlt, List.reverse_singleton, List.takeWhile_cons, hdigit]
  rfl

/-- The last of several digits is told by the remainder. -/
theorem trailingZeros_of_le {n : Nat} (h : 10 ≤ n) :
    trailingZeros n = if n % 10 = 0 then trailingZeros (n / 10) + 1 else 0 := by
  have hdigit : (Nat.digitChar (n % 10) == '0') = decide (n % 10 = 0) := by
    rw [Bool.eq_iff_iff, beq_iff_eq, decide_eq_true_eq]
    exact Nat.digitChar_eq_zero
  rw [trailingZeros, Nat.toDigits_of_base_le (by decide) h, List.reverse_append,
    List.reverse_singleton, List.singleton_append, List.takeWhile_cons, hdigit]
  by_cases hzero : n % 10 = 0
  · simp [hzero, trailingZeros]
  · simp [hzero]

/-- Without the zeros at its end a natural does not end in zero. -/
theorem not_dvd_div_pow_trailingZeros {n : Nat} (hn : 0 < n) : ¬ 10 ∣ n / 10 ^ trailingZeros n := by
  induction n using Nat.strong_induction_on with
  | _ n ih =>
      rcases Nat.lt_or_ge n 10 with hlt | hle
      · rw [trailingZeros_of_lt hn hlt, Nat.pow_zero, Nat.div_one]
        omega
      · rw [trailingZeros_of_le hle]
        by_cases hzero : n % 10 = 0
        · rw [if_pos hzero, Nat.pow_succ, Nat.mul_comm, ← Nat.div_div_eq_div_mul]
          exact ih (n / 10) (by omega) (by omega)
        · rw [if_neg hzero, Nat.pow_zero, Nat.div_one]
          omega

/-- A natural that does not end in zero has no zeros at its end. -/
theorem trailingZeros_eq_zero {n : Nat} (h : ¬ 10 ∣ n) : trailingZeros n = 0 := by
  rcases Nat.lt_or_ge n 10 with hlt | hle
  · exact trailingZeros_of_lt (by omega) hlt
  · rw [trailingZeros_of_le hle, if_neg (by omega)]

/-! ## Reduced decimals -/

/-- The significand does not end in zero; zero has the power `0`. -/
def IsReduced (d : Decimal) : Prop :=
  d.significand = 0 ∧ d.exponent = 0 ∨ ¬ 10 ∣ d.significand

theorem isReduced_normalize (d : Decimal) : d.normalize.IsReduced := by
  unfold normalize
  split
  · exact .inl ⟨rfl, rfl⟩
  · rename_i h
    exact .inr (not_dvd_div_pow_trailingZeros (Nat.pos_of_ne_zero h))

/-- Nothing is to be taken from a reduced decimal. -/
theorem normalize_eq_self {d : Decimal} (h : d.IsReduced) : d.normalize = d := by
  unfold normalize
  split
  · rename_i hzero
    rcases h with ⟨-, hexp⟩ | hdvd
    · obtain ⟨negative, significand, exponent⟩ := d
      simp_all
    · exact absurd (hzero ▸ Nat.dvd_zero 10) hdvd
  · rename_i hne
    have hdvd : ¬ 10 ∣ d.significand := h.resolve_left fun hzero => hne hzero.1
    simp [trailingZeros_eq_zero hdvd]

/-- A power of two adds at most so many places. -/
theorem le_exponent_halved (negative : Bool) (n k : Nat) : -(k : Int) ≤ (halved negative n k).exponent := by
  unfold halved normalize
  split
  · show -(k : Int) ≤ 0
    omega
  · show -(k : Int) ≤ -(k : Int) + _
    omega

/-! ## The text of a number -/

/-- A point and the digits behind it, if there are any. -/
def fractionChars : List Char → List Char
  | [] => []
  | digits => '.' :: digits

/-- The text is the decimal expansion of a number: a minus sign where it is negative, the natural in
front of the point, and behind the point the digits of the fraction, the last of which is not zero. -/
def IsExpansion (q : ℚ) (text : List Char) : Prop :=
  ∃ (whole : Nat) (fraction : List Char),
    text = signChars (q < 0) ++ (Nat.toDigits 10 whole ++ fractionChars fraction) ∧
    (∀ c ∈ fraction, c.isDigit = true) ∧ fraction.getLast? ≠ some '0' ∧
    |q| = whole + (Nat.ofDigitChars 10 fraction 0 : ℚ) / 10 ^ fraction.length

/-- An expansion reads as its number. -/
theorem IsExpansion.reads {q : ℚ} {text : List Char} (h : IsExpansion q text) :
    ∃ d, ofChars? text = some d ∧ d.value = q := by
  obtain ⟨whole, fraction, rfl, hdigits, -, habs⟩ := h
  have hsign : (if decide (q < 0) = true then (-1 : ℚ) else 1) * |q| = q := by
    by_cases hq : q < 0
    · simp [hq, abs_of_neg hq]
    · simp [hq, abs_of_nonneg (not_lt.1 hq)]
  rw [habs] at hsign
  cases fraction with
  | nil =>
      refine ⟨⟨q < 0, whole, 0⟩, ?_, ?_⟩
      · rw [fractionChars, List.append_nil, ofChars?_digits _ (toDigits_ne_nil whole)
          (isDigit_toDigits whole), Nat.ofDigitChars_ten_toDigits]
      · simpa [value] using hsign
  | cons c cs =>
      have hpow : (10 : ℚ) ^ (c :: cs).length ≠ 0 := by positivity
      refine ⟨_, ofChars?_point _ (toDigits_ne_nil whole) (isDigit_toDigits whole) hdigits, ?_⟩
      calc value _ = (if decide (q < 0) = true then (-1 : ℚ) else 1) *
            ((10 ^ (c :: cs).length * whole + Nat.ofDigitChars 10 (c :: cs) 0) /
              10 ^ (c :: cs).length) := by
            rw [value, Nat.ofDigitChars_append, Nat.ofDigitChars_eq_ofDigitChars_zero,
              Nat.ofDigitChars_ten_toDigits, zpow_neg, zpow_natCast, mul_assoc, ← div_eq_mul_inv]
            push_cast
            rfl
        _ = q := by
            rw [add_div, mul_div_cancel_left₀ _ hpow]
            exact hsign

/-- The number can be told from its expansion. -/
theorem IsExpansion.value_unique {q r : ℚ} {text : List Char} (hq : IsExpansion q text)
    (hr : IsExpansion r text) : q = r := by
  obtain ⟨d, hd, rfl⟩ := hq.reads
  obtain ⟨d', hd', rfl⟩ := hr.reads
  rw [hd] at hd'
  rw [Option.some.inj hd']

/-- Digits with zeros in front end in the last digit of the natural. -/
theorem getLast?_padded (width n : Nat) :
    (padded width n).getLast? = some (Nat.digitChar (n % 10)) := by
  have hlast : (Nat.toDigits 10 n).getLast? = some (Nat.digitChar (n % 10)) := by
    rcases Nat.lt_or_ge n 10 with hlt | hle
    · rw [Nat.toDigits_of_lt_base hlt, Nat.mod_eq_of_lt hlt]
      rfl
    · rw [Nat.toDigits_of_base_le (by decide) hle, List.getLast?_concat]
  unfold padded
  rw [List.getLast?_append, hlast]
  rfl

/-- **The digits of a reduced decimal are the expansion of its number.** -/
theorem isExpansion_positional {d : Decimal} (hd : d.IsReduced)
    (hsign : d.negative = decide (d.value < 0)) : IsExpansion d.value d.positional := by
  have habs : |d.value| = d.significand * (10 : ℚ) ^ d.exponent := Binary.abs_value_eq d
  unfold positional
  by_cases hexp : 0 ≤ d.exponent
  · refine ⟨d.significand * 10 ^ d.exponent.toNat, [], ?_, List.forall_mem_nil _, by simp, ?_⟩
    · rw [if_pos hexp, ← hsign, fractionChars, List.append_nil]
      congr 1
      rcases Nat.eq_zero_or_pos d.significand with hzero | hpos
      · have hnone : d.exponent.toNat = 0 := by
          rcases hd with ⟨-, h⟩ | hdvd
          · rw [h]
            rfl
          · exact absurd (hzero ▸ Nat.dvd_zero 10) hdvd
        rw [hnone, List.replicate_zero, List.append_nil, Nat.pow_zero, Nat.mul_one]
      · exact (toDigits_mul_pow hpos _).symm
    · rw [habs]
      have hnat : (10 : ℚ) ^ d.exponent = (10 : ℚ) ^ d.exponent.toNat := by
        rw [← zpow_natCast, Int.toNat_of_nonneg hexp]
      rw [hnat]
      simp
  · rw [if_neg hexp]
    dsimp only
    -- the significand is cut where the point stands
    set places := (-d.exponent).toNat with hplaces
    have hpos : 0 < places := by omega
    have hlt : d.significand % 10 ^ places < 10 ^ places := Nat.mod_lt _ (Nat.pow_pos (by decide))
    have hlength := length_padded hlt hpos
    have hdvd : ¬ 10 ∣ d.significand := hd.resolve_left fun h => hexp h.2.ge
    refine ⟨d.significand / 10 ^ places, padded places (d.significand % 10 ^ places), ?_,
      fun c hc => isDigit_of_mem_padded hc, ?_, ?_⟩
    · have hne : padded places (d.significand % 10 ^ places) ≠ [] :=
        List.ne_nil_of_length_pos (hlength.symm ▸ hpos)
      obtain ⟨c, cs, hcons⟩ := List.exists_cons_of_ne_nil hne
      rw [← hsign, hcons]
      rfl
    · rw [getLast?_padded, Nat.mod_mod_of_dvd _ (dvd_pow_self 10 hpos.ne')]
      intro h
      exact hdvd (Nat.dvd_of_mod_eq_zero (Nat.digitChar_eq_zero.1 (Option.some.inj h)))
    · have hsplit : (d.significand : ℚ) =
          10 ^ places * (d.significand / 10 ^ places : Nat) + (d.significand % 10 ^ places : Nat) := by
        exact_mod_cast (Nat.div_add_mod d.significand (10 ^ places)).symm
      have hpow : (10 : ℚ) ^ places ≠ 0 := by positivity
      have hneg : d.exponent = -(places : Int) := by omega
      rw [habs, hlength, ofDigitChars_padded hlt hpos, Nat.mul_zero, Nat.zero_add, hneg, zpow_neg,
        zpow_natCast, ← div_eq_mul_inv]
      nth_rewrite 1 [hsplit]
      rw [add_div, mul_div_cancel_left₀ _ hpow]

end Decimal

end CanvasExport
