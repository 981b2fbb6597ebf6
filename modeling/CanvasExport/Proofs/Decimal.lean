import CanvasExport.Decimal
import Mathlib.Algebra.Field.Rat
import Mathlib.Algebra.Order.Ring.Rat
import Mathlib.Data.List.TakeWhile
import Mathlib.Data.Nat.Cast.Order.Ring
import Mathlib.Tactic.FieldSimp
import Mathlib.Tactic.NormNum
import Mathlib.Tactic.Ring
/-!
# Decimals as numbers

A decimal has a value, a rational number.  Neither normalizing nor writing changes it: a text with all
digits written out reads back as the same number (`ofChars?_positional`, `value_written`), and the
decimal expansion of an integer over a power of two is exact (`value_halved`).
-/

namespace CanvasExport.Decimal

-- powers of naturals are the core library's
attribute [local instance (2000)] instPowNat

/-! ## Digits -/

/-- What stands in front of the zeros at the end, and the zeros, make the number. -/
theorem exists_eq_mul_pow_trailingZeros (n : Nat) : ∃ m, n = m * 10 ^ trailingZeros n := by
  set digits := Nat.toDigits 10 n with hdigits
  set zeros := digits.reverse.takeWhile (· == '0') with hzeros
  set front := digits.reverse.dropWhile (· == '0') with hfront
  have hsplit : digits = front.reverse ++ zeros.reverse := by
    rw [← List.reverse_append, hzeros, hfront, List.takeWhile_append_dropWhile, List.reverse_reverse]
  have hrep : zeros.reverse = List.replicate (trailingZeros n) '0' := by
    rw [List.eq_replicate_iff]
    refine ⟨by rw [List.length_reverse]; rfl, ?_⟩
    intro c hc
    have hc' := List.mem_takeWhile_imp (List.mem_reverse.1 hc)
    simpa using hc'
  refine ⟨Nat.ofDigitChars 10 front.reverse 0, ?_⟩
  calc n = Nat.ofDigitChars 10 digits 0 := Nat.ofDigitChars_ten_toDigits.symm
    _ = 10 ^ trailingZeros n * Nat.ofDigitChars 10 front.reverse 0 := by
        rw [hsplit, Nat.ofDigitChars_append, hrep, Nat.ofDigitChars_replicate_zero]
    _ = Nat.ofDigitChars 10 front.reverse 0 * 10 ^ trailingZeros n := Nat.mul_comm _ _

/-- A natural below a power of ten has no more digits than the power says. -/
theorem length_toDigits_le {width n : Nat} (h : n < 10 ^ width) (hwidth : 0 < width) :
    (Nat.toDigits 10 n).length ≤ width :=
  (Nat.length_toDigits_le_iff (by decide) hwidth).2 h

/-- Zeros in front fill the width. -/
theorem length_padded {width n : Nat} (h : n < 10 ^ width) (hwidth : 0 < width) :
    (padded width n).length = width := by
  have hlen := length_toDigits_le h hwidth
  unfold padded
  dsimp only
  rw [List.length_append, List.length_replicate]
  omega

/-- A natural written with zeros in front reads as the natural. -/
theorem ofDigitChars_padded {width n : Nat} (h : n < 10 ^ width) (hwidth : 0 < width)
    (init : Nat) : Nat.ofDigitChars 10 (padded width n) init = 10 ^ width * init + n := by
  have hlen := length_toDigits_le h hwidth
  unfold padded
  dsimp only
  rw [Nat.ofDigitChars_append, Nat.ofDigitChars_replicate_zero,
    Nat.ofDigitChars_eq_ofDigitChars_zero, Nat.ofDigitChars_ten_toDigits, ← Nat.mul_assoc,
    ← Nat.pow_add, Nat.add_sub_cancel' hlen]

/-- A natural is written with digits alone. -/
theorem isDigit_of_mem_padded {width n : Nat} {c : Char} (h : c ∈ padded width n) :
    c.isDigit = true := by
  rcases List.mem_append.1 h with h | h
  · rw [List.eq_of_mem_replicate h]
    decide
  · exact Nat.isDigit_of_mem_toDigits (by decide) (by decide) h

/-! ## Values -/

/-- The number that a decimal stands for. -/
def value (d : Decimal) : ℚ :=
  (if d.negative then -1 else 1) * d.significand * (10 : ℚ) ^ d.exponent

/-- Normalizing keeps the number. -/
theorem value_normalize (d : Decimal) : d.normalize.value = d.value := by
  unfold normalize
  split
  · rename_i h
    simp [value, h]
  · rename_i h
    obtain ⟨m, hm⟩ := exists_eq_mul_pow_trailingZeros d.significand
    have hquot : d.significand / 10 ^ trailingZeros d.significand = m := by
      nth_rewrite 1 [hm]
      exact Nat.mul_div_cancel _ (Nat.pow_pos (by decide))
    have hcast : (d.significand : ℚ) = m * (10 : ℚ) ^ trailingZeros d.significand := by
      exact_mod_cast hm
    simp only [value]
    rw [hquot, hcast, zpow_add₀ (by norm_num), zpow_natCast]
    ring

/-- The decimal expansion of an integer over a power of two is exact. -/
theorem value_halved (negative : Bool) (n k : Nat) :
    (halved negative n k).value = (if negative then -1 else 1) * n / (2 : ℚ) ^ k := by
  rw [halved, value_normalize]
  simp only [value]
  have h10 : (10 : ℚ) ^ (-(k : Int)) = 1 / (5 ^ k * 2 ^ k) := by
    rw [zpow_neg, zpow_natCast, ← mul_pow]
    norm_num
  rw [h10]
  push_cast
  have h5 : (5 : ℚ) ^ k ≠ 0 := pow_ne_zero k (by norm_num)
  field_simp

/-! ## Reading what is written -/

/-- What the text of a decimal reads as: the same number without a positive power of ten. -/
def written (d : Decimal) : Decimal :=
  if 0 ≤ d.exponent then ⟨d.negative, d.significand * 10 ^ d.exponent.toNat, 0⟩ else d

/-- Writing keeps the number. -/
theorem value_written (d : Decimal) : d.written.value = d.value := by
  unfold written
  split
  · rename_i h
    have hexp : (10 : ℚ) ^ d.exponent = (10 : ℚ) ^ d.exponent.toNat := by
      rw [← zpow_natCast, Int.toNat_of_nonneg h]
    simp only [value]
    rw [hexp]
    push_cast
    ring
  · rfl

/-- The sign in front of a digit is read. -/
theorem splitSign_signChars (negative : Bool) {c : Char} (hc : c.isDigit = true) (cs : List Char) :
    splitSign (signChars negative ++ c :: cs) = (negative, c :: cs) := by
  cases negative with
  | true => rfl
  | false =>
      have hminus : c ≠ '-' := fun e => by rw [e] at hc; exact absurd hc (by decide)
      have hplus : c ≠ '+' := fun e => by rw [e] at hc; exact absurd hc (by decide)
      show splitSign (c :: cs) = (false, c :: cs)
      unfold splitSign
      split
      · rename_i h
        exact absurd (List.cons.inj h).1 hminus
      · rename_i h
        exact absurd (List.cons.inj h).1 hplus
      · rfl

/-- Digits are told from what follows them. -/
theorem takeWhile_isDigit_append {ds tail : List Char} (hds : ∀ c ∈ ds, c.isDigit = true)
    (htail : ∀ c ∈ tail.head?, c.isDigit = false) :
    (ds ++ tail).takeWhile Char.isDigit = ds ∧ (ds ++ tail).dropWhile Char.isDigit = tail := by
  rw [List.takeWhile_append_of_pos hds, List.dropWhile_append_of_pos hds]
  cases tail with
  | nil => simp
  | cons c tail => simp [htail c rfl]

/-- A sign, digits and a power of ten or nothing read as the natural of the digits times the power. -/
theorem ofChars?_digits_power (negative : Bool) {ds tail : List Char} (hne : ds ≠ [])
    (hds : ∀ c ∈ ds, c.isDigit = true) (htail : ∀ c ∈ tail.head?, c = 'e') :
    ofChars? (signChars negative ++ (ds ++ tail)) =
      (power? tail).map fun power => ⟨negative, Nat.ofDigitChars 10 ds 0, power⟩ := by
  obtain ⟨c, cs, rfl⟩ := List.exists_cons_of_ne_nil hne
  have hnodigit : ∀ c ∈ tail.head?, c.isDigit = false := fun c hc => by rw [htail c hc]; rfl
  obtain ⟨htake, hdrop⟩ := takeWhile_isDigit_append hds hnodigit
  have hnopoint : splitFraction tail = ([], tail) := by
    unfold splitFraction
    split
    · exact absurd (htail '.' rfl) (by decide)
    · rfl
  have hsign : splitSign (signChars negative ++ (c :: cs ++ tail)) = (negative, c :: cs ++ tail) :=
    splitSign_signChars negative (hds c List.mem_cons_self) (cs ++ tail)
  rw [ofChars?, hsign]
  simp only [htake, hdrop, hnopoint]
  simp

/-- A sign, digits, a point, digits and a power of ten or nothing read as the natural of all digits,
with a power of ten less for each digit behind the point. -/
theorem ofChars?_point_power (negative : Bool) {ds fs tail : List Char} (hne : ds ≠ [])
    (hds : ∀ c ∈ ds, c.isDigit = true) (hfs : ∀ c ∈ fs, c.isDigit = true)
    (htail : ∀ c ∈ tail.head?, c = 'e') :
    ofChars? (signChars negative ++ (ds ++ '.' :: (fs ++ tail))) =
      (power? tail).map fun power =>
        ⟨negative, Nat.ofDigitChars 10 (ds ++ fs) 0, power - fs.length⟩ := by
  obtain ⟨c, cs, rfl⟩ := List.exists_cons_of_ne_nil hne
  have hnodigit : ∀ c ∈ tail.head?, c.isDigit = false := fun c hc => by rw [htail c hc]; rfl
  have hpoint : ∀ c ∈ ('.' :: (fs ++ tail)).head?, c.isDigit = false := by
    rintro c ⟨⟩
    rfl
  obtain ⟨htake, hdrop⟩ := takeWhile_isDigit_append hds hpoint
  obtain ⟨htake', hdrop'⟩ := takeWhile_isDigit_append hfs hnodigit
  have hsign : splitSign (signChars negative ++ (c :: cs ++ '.' :: (fs ++ tail))) =
      (negative, c :: cs ++ '.' :: (fs ++ tail)) :=
    splitSign_signChars negative (hds c List.mem_cons_self) (cs ++ '.' :: (fs ++ tail))
  rw [ofChars?, hsign]
  simp only [htake, hdrop, splitFraction, htake', hdrop']
  simp

/-- A sign and digits read as the natural that they write. -/
theorem ofChars?_digits (negative : Bool) {ds : List Char} (hne : ds ≠ [])
    (hds : ∀ c ∈ ds, c.isDigit = true) :
    ofChars? (signChars negative ++ ds) = some ⟨negative, Nat.ofDigitChars 10 ds 0, 0⟩ := by
  have h := @ofChars?_digits_power negative ds [] hne hds (by simp)
  rwa [List.append_nil] at h

/-- A sign, digits, a point and digits read as the natural of all digits, with a power of ten for each
digit behind the point. -/
theorem ofChars?_point (negative : Bool) {ds fs : List Char} (hne : ds ≠ [])
    (hds : ∀ c ∈ ds, c.isDigit = true) (hfs : ∀ c ∈ fs, c.isDigit = true) :
    ofChars? (signChars negative ++ (ds ++ '.' :: fs)) =
      some ⟨negative, Nat.ofDigitChars 10 (ds ++ fs) 0, -fs.length⟩ := by
  have h := @ofChars?_point_power negative ds fs [] hne hds hfs (by simp)
  rw [List.append_nil] at h
  rw [h]
  simp [power?]

/-- The digits of a natural are digits. -/
theorem isDigit_toDigits (n : Nat) : ∀ c ∈ Nat.toDigits 10 n, c.isDigit = true :=
  fun _ hc => Nat.isDigit_of_mem_toDigits (by decide) (by decide) hc

/-- A natural has a digit. -/
theorem toDigits_ne_nil (n : Nat) : Nat.toDigits 10 n ≠ [] :=
  List.ne_nil_of_length_pos Nat.length_toDigits_pos

/-- **A decimal with all digits written out reads back.** -/
theorem ofChars?_positional (d : Decimal) : ofChars? d.positional = some d.written := by
  unfold positional written
  by_cases h : 0 ≤ d.exponent
  · rw [if_pos h, if_pos h, ofChars?_digits]
    · rw [Nat.ofDigitChars_append, Nat.ofDigitChars_ten_toDigits, Nat.ofDigitChars_replicate_zero,
        Nat.mul_comm]
    · exact List.append_ne_nil_of_left_ne_nil (toDigits_ne_nil _) _
    · intro c hc
      rcases List.mem_append.1 hc with hc | hc
      · exact isDigit_toDigits _ c hc
      · rw [List.eq_of_mem_replicate hc]
        decide
  · rw [if_neg h, if_neg h]
    dsimp only
    -- the significand is cut where the point stands, and put together again
    set places := (-d.exponent).toNat with hplaces
    have hpos : 0 < places := by omega
    have hlt : d.significand % 10 ^ places < 10 ^ places :=
      Nat.mod_lt _ (Nat.pow_pos (by decide))
    rw [ofChars?_point d.negative (toDigits_ne_nil _) (isDigit_toDigits _)
      fun c hc => isDigit_of_mem_padded hc,
      Nat.ofDigitChars_append, Nat.ofDigitChars_ten_toDigits, ofDigitChars_padded hlt hpos,
      Nat.div_add_mod, length_padded hlt hpos]
    have hexp : -(places : Int) = d.exponent := by omega
    rw [hexp]

end CanvasExport.Decimal
