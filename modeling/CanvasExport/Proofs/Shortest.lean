import CanvasExport.Proofs.Expansion
/-!
# Numbers that are their own shortest decimal

Rounding moves a number by at most half a unit of its last bit (`Binary.abs_sub_le_of_round`).  So where
a number of a format is a reduced decimal whose last digit counts for more than that, no decimal with
fewer digits is read as the number, and the shortest decimal is the number itself
(`Binary.shortest_eq`).
-/

namespace CanvasExport

-- powers of naturals are the core library's
attribute [local instance (2000)] instPowNat

/-! ## The error of rounding -/

/-- Rounding moves a quotient by at most a half, from above. -/
theorem two_mul_divNearestEven_le (a : Nat) {b : Nat} (hb : 0 < b) :
    2 * (b * divNearestEven a b) ≤ 2 * a + b := by
  have h := Nat.div_add_mod a b
  have hr := Nat.mod_lt a hb
  have hodd : b * (a / b + a / b % 2) ≤ b * (a / b + 1) := Nat.mul_le_mul_left b (by omega)
  rw [Nat.mul_add b (a / b) 1] at hodd
  unfold divNearestEven
  dsimp only
  split
  · omega
  · split
    · rw [Nat.mul_add]
      omega
    · omega

/-- The nearest natural is at most a half away. -/
theorem abs_div_sub_divNearestEven_le (a : Nat) {b : Nat} (hb : 0 < b) :
    |(a : ℚ) / b - divNearestEven a b| ≤ 1 / 2 := by
  have hb' : (0 : ℚ) < b := by exact_mod_cast hb
  have hlow : (2 : ℚ) * a ≤ 2 * (b * divNearestEven a b) + b := by
    exact_mod_cast le_two_mul_divNearestEven a hb
  have hhigh : (2 : ℚ) * (b * divNearestEven a b) ≤ 2 * a + b := by
    exact_mod_cast two_mul_divNearestEven_le a hb
  rw [abs_le]
  constructor
  · rw [neg_le_sub_iff_le_add, ← sub_le_iff_le_add, le_div_iff₀ hb']
    linarith
  · rw [sub_le_iff_le_add, div_le_iff₀ hb']
    linarith

namespace Binary

variable {f : Format}

/-- **Rounding moves a number by at most half a unit of its last bit.** -/
theorem abs_sub_le_of_round (hp : 0 < f.precision) {negative sign : Bool} {num den m : Nat} {e : Int}
    {h : f.Canonical m e} (hden : 0 < den) (hround : round f negative num den = .finite sign m e h) :
    |(num : ℚ) / den - m * (2 : ℚ) ^ e| ≤ (2 : ℚ) ^ (e - 1) := by
  set bit := lastBit f num den with hbit
  set n := divNearestEven (num * 2 ^ (-bit).toNat) (den * 2 ^ bit.toNat) with hn
  have htwo : (0 : ℚ) < 2 ^ bit := by positivity
  -- the quotient that is rounded to a natural is the number in units of the last bit
  have hscaled : (num : ℚ) / den = ((num * 2 ^ (-bit).toNat : Nat) : ℚ) / (den * 2 ^ bit.toNat : Nat) *
      2 ^ bit := by
    have hden' : (den : ℚ) ≠ 0 := by exact_mod_cast hden.ne'
    rw [zpow_eq_div_pow two_ne_zero]
    push_cast
    field_simp
  have herror : |(num : ℚ) / den - n * (2 : ℚ) ^ bit| ≤ (2 : ℚ) ^ (bit - 1) := by
    rw [hscaled, ← sub_mul, abs_mul, abs_of_pos htwo, zpow_sub_one₀ two_ne_zero, mul_comm]
    gcongr
    rw [← one_div]
    exact abs_div_sub_divNearestEven_le _ (Nat.mul_pos hden (Nat.two_pow_pos _))
  have hparts {m' : Nat} {e' : Int} (hfinite : (ofParts negative m' e' : Binary f) =
      .finite sign m e h) : m' = m ∧ e' = e := by
    unfold ofParts at hfinite
    split at hfinite
    · cases hfinite
      exact ⟨rfl, rfl⟩
    · cases hfinite
  have hcases : round f negative num den =
      if n = 2 ^ f.precision then ofParts negative (2 ^ (f.precision - 1)) (bit + 1)
      else ofParts negative n bit := rfl
  rw [hcases] at hround
  split at hround
  · -- all bits are set by rounding up, and one of them more is needed
    rename_i hfull
    obtain ⟨hm, he⟩ := hparts hround
    have hsame : (m : ℚ) * 2 ^ e = n * 2 ^ bit := by
      have hpow : 2 ^ (f.precision - 1) * 2 = 2 ^ f.precision := by
        rw [← Nat.pow_succ]
        congr 1
        omega
      rw [← hm, ← he, hfull, zpow_add_one₀ two_ne_zero, ← hpow]
      push_cast
      ring
    rw [hsame]
    refine herror.trans (zpow_le_zpow_right₀ one_le_two ?_)
    omega
  · obtain ⟨rfl, rfl⟩ := hparts hround
    exact herror

end Binary

/-! ## Decimal digits -/

/-- The number of digits of a natural tells between which powers of ten it is. -/
theorem ten_zpow_length_toDigits {n : Nat} (hn : 0 < n) :
    (10 : ℚ) ^ (((Nat.toDigits 10 n).length : Int) - 1) ≤ n ∧
      (n : ℚ) < (10 : ℚ) ^ ((Nat.toDigits 10 n).length : Int) := by
  have hlength : 0 < (Nat.toDigits 10 n).length := Nat.length_toDigits_pos
  have hhigh : n < 10 ^ (Nat.toDigits 10 n).length :=
    (Nat.length_toDigits_le_iff (by decide) hlength).1 le_rfl
  have hlow : 10 ^ ((Nat.toDigits 10 n).length - 1) ≤ n := by
    rcases Nat.eq_zero_or_pos ((Nat.toDigits 10 n).length - 1) with hzero | hpos
    · rw [hzero, Nat.pow_zero]
      exact hn
    · by_contra hlt
      have hle := (Nat.length_toDigits_le_iff (by decide) hpos).2 (not_le.1 hlt)
      omega
  constructor
  · rw [← Nat.cast_pred hlength, zpow_natCast]
    exact_mod_cast hlow
  · rw [zpow_natCast]
    exact_mod_cast hhigh

/-- The test on naturals compares the quotient with a power of ten. -/
theorem num_mul_lt_den_mul_iff {num den : Nat} (hden : 0 < den) (k : Int) :
    num * 10 ^ (-k).toNat < den * 10 ^ k.toNat ↔ (num : ℚ) / den < (10 : ℚ) ^ k := by
  have hden' : (0 : ℚ) < den := by exact_mod_cast hden
  rw [zpow_eq_div_pow (by norm_num), div_lt_div_iff₀ hden' (by positivity), ← Nat.cast_lt (α := ℚ)]
  push_cast
  rw [mul_comm (den : ℚ)]

namespace Binary

variable {f : Format}

/-- The power of ten just above a number is the one between which and the power before it the number
is. -/
theorem decimalPoint_eq {num den : Nat} (hnum : 0 < num) (hden : 0 < den) {k : Int}
    (hlow : (10 : ℚ) ^ (k - 1) ≤ num / den) (hhigh : (num : ℚ) / den < 10 ^ k) :
    decimalPoint num den = k := by
  have hden' : (0 : ℚ) < den := by exact_mod_cast hden
  obtain ⟨hnumlow, hnumhigh⟩ := ten_zpow_length_toDigits hnum
  obtain ⟨hdenlow, hdenhigh⟩ := ten_zpow_length_toDigits hden
  unfold decimalPoint
  dsimp only
  set j : Int := ((Nat.toDigits 10 num).length : Int) - (Nat.toDigits 10 den).length with hj
  have hlt {a b : Int} (h : (10 : ℚ) ^ a < 10 ^ b) : a < b := (zpow_lt_zpow_iff_right₀ (by norm_num)).1 h
  -- the lengths of numerator and denominator leave two candidates
  have hjlow : (10 : ℚ) ^ (j - 1) < num / den := by
    rw [lt_div_iff₀ hden']
    calc (10 : ℚ) ^ (j - 1) * den < 10 ^ (j - 1) * 10 ^ ((Nat.toDigits 10 den).length : Int) := by
          gcongr
      _ = 10 ^ (((Nat.toDigits 10 num).length : Int) - 1) := by
          rw [← zpow_add₀ (by norm_num)]
          congr 1
          omega
      _ ≤ num := hnumlow
  have hjhigh : (num : ℚ) / den < 10 ^ (j + 1) := by
    rw [div_lt_iff₀ hden']
    calc (num : ℚ) < 10 ^ ((Nat.toDigits 10 num).length : Int) := hnumhigh
      _ = 10 ^ (j + 1) * 10 ^ (((Nat.toDigits 10 den).length : Int) - 1) := by
          rw [← zpow_add₀ (by norm_num)]
          congr 1
          omega
      _ ≤ 10 ^ (j + 1) * den := by gcongr
  have habove := hlt (hjlow.trans hhigh)
  have hbelow := hlt (hlow.trans_lt hjhigh)
  split
  · rename_i htest
    have hless := hlt (hlow.trans_lt ((num_mul_lt_den_mul_iff hden j).1 htest))
    omega
  · rename_i htest
    rw [num_mul_lt_den_mul_iff hden, not_lt] at htest
    have hmore := hlt (htest.trans_lt hhigh)
    omega

/-! ## The shortest decimal -/

section Shortest

variable {m s : Nat} {e k : Int} {h : f.Canonical m e}

/-- Where half a unit of the last bit counts for less than the last digit, no decimal with fewer digits
is read as the number. -/
theorem ofDecimal_ne_of_lt (hf : f.Spans) (hm : m ≠ 0) (hvalue : (m : ℚ) * 2 ^ e = s * 10 ^ k)
    (hs : ¬ 10 ∣ s) (hunit : (2 : ℚ) ^ (e - 1) < 10 ^ k) (c : Nat) {j : Int} (hj : k < j) :
    ofDecimal f ⟨false, c, j⟩ ≠ .finite false m e h := by
  intro hread
  have hc : c ≠ 0 := by
    rintro rfl
    rw [ofDecimal, if_pos rfl, zero, Binary.finite.injEq] at hread
    exact hm hread.2.1.symm
  rw [ofDecimal_eq_round hf (d := ⟨false, c, j⟩) hc] at hread
  have herror := abs_sub_le_of_round hf.precision_pos (Nat.pow_pos (by decide)) hread
  rw [decimal_ratio_eq, hvalue] at herror
  -- in units of the last digit both are naturals, less than one apart
  obtain ⟨t, ht⟩ : ∃ t : Nat, j = k + (t + 1 : Nat) := ⟨(j - k - 1).toNat, by omega⟩
  have hten : (0 : ℚ) < 10 ^ k := by positivity
  have hunits : ((c : ℚ) * 10 ^ j - s * 10 ^ k) = ((c * 10 ^ (t + 1) : Nat) - (s : ℚ)) * 10 ^ k := by
    rw [ht, zpow_add₀ (by norm_num), zpow_natCast]
    push_cast
    ring
  have hclose := herror.trans_lt hunit
  rw [hunits, abs_mul, abs_of_pos hten, mul_lt_iff_lt_one_left hten] at hclose
  have hsame : ((c * 10 ^ (t + 1) : Nat) : Int) = s := by
    have hint : |((c * 10 ^ (t + 1) : Nat) : Int) - (s : Int)| < 1 := by exact_mod_cast hclose
    rw [abs_lt] at hint
    omega
  apply hs
  rw [← Int.ofNat_inj.1 hsame, Nat.pow_succ, ← Nat.mul_assoc]
  exact Nat.dvd_mul_left 10 _

/-- The number itself is found at its last digit. -/
theorem readsBackAt_eq (hf : f.Spans) (tie : Tie) (hm : m ≠ 0)
    (hvalue : (m : ℚ) * 2 ^ e = s * 10 ^ k) :
    readsBackAt tie (.finite false m e h : Binary f) (ratio m e).1 (ratio m e).2 k =
      some ⟨false, s, k⟩ := by
  have hden := ratio_snd_pos m e
  set b := (ratio m e).2 * 10 ^ k.toNat with hb
  have hbpos : 0 < b := Nat.mul_pos hden (Nat.pow_pos (by decide))
  have hexact : (ratio m e).1 * 10 ^ (-k).toNat = b * s := by
    have hratio := ratio_eq m e
    rw [hvalue, zpow_eq_div_pow (by norm_num), div_eq_iff (by exact_mod_cast hden.ne')] at hratio
    have hpow : (10 : ℚ) ^ (-k).toNat ≠ 0 := by positivity
    have hcast : ((ratio m e).1 : ℚ) * 10 ^ (-k).toNat = (ratio m e).2 * 10 ^ k.toNat * s := by
      rw [hratio]
      field_simp
    exact_mod_cast hcast
  have hread : ofDecimal f ⟨false, s, k⟩ = .finite false m e h := by
    have hs : s ≠ 0 := by
      rintro rfl
      rw [Nat.cast_zero, zero_mul, mul_eq_zero, Nat.cast_eq_zero] at hvalue
      exact hvalue.elim hm (zpow_ne_zero _ two_ne_zero)
    rw [ofDecimal_eq_round hf (d := ⟨false, s, k⟩) hs, ← round_ratio hf.precision_pos false h]
    apply round_congr false (Nat.pow_pos (by decide)) hden
    rw [decimal_ratio_eq, ratio_eq, hvalue]
  unfold readsBackAt
  dsimp only
  rw [← hb, hexact, Nat.mul_div_cancel_left s hbpos, Nat.mul_mod_right, if_pos hread]
  -- where the next decimal is read as the number too, this one is nearer
  split
  · rfl
  · rfl

/-- Of candidates in a row the first one that is there is found. -/
theorem findSome?_range_eq_some {α : Type} {candidate : Nat → Option α} {n i : Nat} {a : α}
    (hi : i < n) (hnone : ∀ j < i, candidate j = none) (hsome : candidate i = some a) :
    (List.range n).findSome? candidate = some a := by
  obtain ⟨r, rfl⟩ : ∃ r, n = i + 1 + r := ⟨n - (i + 1), by omega⟩
  have hbefore : (List.range i).findSome? candidate = none :=
    List.findSome?_eq_none_iff.2 fun j hj => hnone j (List.mem_range.1 hj)
  rw [List.range_add, List.findSome?_append, List.range_succ, List.findSome?_append, hbefore,
    List.findSome?_singleton, hsome]
  rfl

/-- The last digit stands where the count of digits says. -/
theorem decimalPoint_ratio (hm : m ≠ 0) (hs : 0 < s) (hvalue : (m : ℚ) * 2 ^ e = s * 10 ^ k) :
    decimalPoint (ratio m e).1 (ratio m e).2 = (Nat.toDigits 10 s).length + k := by
  obtain ⟨hlow, hhigh⟩ := ten_zpow_length_toDigits hs
  have hratio : ((ratio m e).1 : ℚ) / (ratio m e).2 = s * 10 ^ k := (ratio_eq m e).trans hvalue
  have hnum : 0 < (ratio m e).1 := Nat.mul_pos (Nat.pos_of_ne_zero hm) (Nat.two_pow_pos _)
  apply decimalPoint_eq hnum (ratio_snd_pos m e)
  · rw [hratio, add_sub_right_comm, zpow_add₀ (by norm_num)]
    gcongr
  · rw [hratio, zpow_add₀ (by norm_num)]
    gcongr

theorem shortestMagnitude_eq (hf : f.Spans) (tie : Tie) (hm : m ≠ 0)
    (hvalue : (m : ℚ) * 2 ^ e = s * 10 ^ k) (hs : ¬ 10 ∣ s) (hunit : (2 : ℚ) ^ (e - 1) < 10 ^ k)
    (hdigits : (Nat.toDigits 10 s).length ≤ f.maxDigits) :
    shortestMagnitude tie m e h = ⟨false, s, k⟩ := by
  have hsome : 0 < (Nat.toDigits 10 s).length := Nat.length_toDigits_pos
  have hpoint := decimalPoint_ratio hm (by omega) hvalue
  have hfind : (List.range f.maxDigits).findSome? (fun (count : Nat) =>
      readsBackAt tie (.finite false m e h : Binary f) (ratio m e).1 (ratio m e).2
        (decimalPoint (ratio m e).1 (ratio m e).2 - (count + 1))) = some ⟨false, s, k⟩ := by
    apply findSome?_range_eq_some (i := (Nat.toDigits 10 s).length - 1) (by omega)
    · intro count hfewer
      have hcoarse : k < decimalPoint (ratio m e).1 (ratio m e).2 - (count + 1) := by omega
      have hno (c : Nat) := ofDecimal_ne_of_lt (h := h) hf hm hvalue hs hunit c hcoarse
      unfold readsBackAt
      dsimp only
      rw [if_neg (hno _), if_neg (hno _)]
    · have hlast : decimalPoint (ratio m e).1 (ratio m e).2 -
          ((((Nat.toDigits 10 s).length - 1 : Nat) : Int) + 1) = k := by omega
      rw [hlast]
      exact readsBackAt_eq hf tie hm hvalue
  unfold shortestMagnitude
  dsimp only
  rw [hfind]
  exact Decimal.normalize_eq_self (.inr hs)

/-- **A number whose last decimal digit counts for more than half a unit of its last bit is its own
shortest decimal.** -/
theorem shortest_eq (hf : f.Spans) (tie : Tie) {d : Decimal} (hd : d.IsReduced)
    (hvalue : m * (2 : ℚ) ^ e = |d.value|) (hunit : (2 : ℚ) ^ (e - 1) < 10 ^ d.exponent)
    (hdigits : (Nat.toDigits 10 d.significand).length ≤ f.maxDigits) :
    shortest tie d.negative m e h = d := by
  rw [abs_value_eq] at hvalue
  by_cases hm : m = 0
  · have hzero : d.significand = 0 := by
      have hpow : (10 : ℚ) ^ d.exponent ≠ 0 := zpow_ne_zero _ (by norm_num)
      rw [hm, Nat.cast_zero, zero_mul, eq_comm, mul_eq_zero_iff_right hpow, Nat.cast_eq_zero] at hvalue
      exact hvalue
    have hexp : d.exponent = 0 := by
      rcases hd with ⟨-, hexp⟩ | hdvd
      · exact hexp
      · exact absurd (hzero ▸ Nat.dvd_zero 10) hdvd
    rw [shortest, if_pos hm, ← hzero, ← hexp]
  · have hdvd : ¬ 10 ∣ d.significand := by
      refine hd.resolve_left fun hzero => ?_
      rw [hzero.1, Nat.cast_zero, zero_mul, mul_eq_zero, Nat.cast_eq_zero] at hvalue
      exact hvalue.elim hm (zpow_ne_zero _ two_ne_zero)
    rw [shortest, if_neg hm, shortestMagnitude_eq hf tie hm hvalue hdvd hunit hdigits]

end Shortest

end Binary

end CanvasExport
