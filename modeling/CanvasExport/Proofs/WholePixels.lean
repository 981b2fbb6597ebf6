import CanvasExport.Proofs.Nearest
import CanvasExport.Proofs.Spacing
import CanvasExport.Style
/-!
# Whole pixels of exact lengths

A finite length is a rational number.  It is rounded to the nearest integer (`IsNearest`), of two that are
as near to the one away from zero, or its fraction is cut off (`IsTruncation`); both are the magnitude
with a half or with nothing added, without the fraction and under the sign of the length (`wholeWith`).
So both keep the order of lengths and turn over with their sign, and what is beyond 32 bits becomes the
last number of pixels on its own side (`Pixels.IsConversion`).
-/

namespace CanvasExport

/-! ## The nearest integer -/

/-- No integer is nearer to the number, and of those that are as near none is farther from zero. -/
structure IsNearest (q : ℚ) (n : ℤ) : Prop where
  nearest : ∀ k : ℤ, |q - n| ≤ |q - k|
  away : ∀ k : ℤ, |q - k| = |q - n| → |k| ≤ |n|

/-- On the other side of zero the same integers are near. -/
theorem IsNearest.neg {q : ℚ} {n : ℤ} (h : IsNearest q n) : IsNearest (-q) (-n) := by
  have hdistance (k : ℤ) : |-q - k| = |q - (-k : ℤ)| := by
    rw [Int.cast_neg, sub_neg_eq_add, ← abs_neg, neg_sub, sub_neg_eq_add, add_comm]
  constructor
  · intro k
    rw [hdistance, hdistance, neg_neg]
    exact h.nearest (-k)
  · intro k hk
    rw [hdistance, hdistance, neg_neg] at hk
    have haway := h.away (-k) hk
    rwa [abs_neg] at haway ⊢

/-- There is no other one. -/
theorem IsNearest.unique {q : ℚ} {n n' : ℤ} (h : IsNearest q n) (h' : IsNearest q n') : n = n' := by
  have hdistance : |q - n| = |q - n'| := le_antisymm (h.nearest n') (h'.nearest n)
  have hmagnitude : |n| = |n'| := le_antisymm (h'.away n hdistance) (h.away n' hdistance.symm)
  rcases abs_eq_abs.1 hmagnitude with heq | hneg
  · exact heq
  · -- both sides of zero are as near to zero alone, which is nearer
    subst hneg
    rw [Int.cast_neg, sub_neg_eq_add, abs_eq_abs] at hdistance
    have hzero : q = 0 ∨ (n' : ℚ) = 0 := by
      rcases hdistance with hdistance | hdistance
      · right
        linarith
      · left
        linarith
    rcases hzero with rfl | hn
    · have hle := h.nearest 0
      rw [Int.cast_zero, sub_zero, abs_zero, zero_sub, abs_neg, abs_nonpos_iff, Int.cast_eq_zero] at hle
      omega
    · rw [Int.cast_eq_zero] at hn
      omega

/-- The magnitude and a half without its fraction is nearest, and of two it is the greater one. -/
theorem isNearest_of_nonneg {q : ℚ} (hq : 0 ≤ q) : IsNearest q (roundAway q) := by
  set n := roundAway q with hn
  rw [roundAway_eq_wholeWith, wholeWith_of_nonneg hq] at hn
  obtain ⟨hlow, hhigh⟩ := Int.floor_eq_iff.1 hn.symm
  have hnonneg : 0 ≤ n := hn ▸ Int.floor_nonneg.2 (by linarith)
  have hnear : |q - n| ≤ 1 / 2 := abs_le.2 ⟨by linarith, by linarith⟩
  constructor
  · intro k
    rcases lt_trichotomy k n with hk | rfl | hk
    · have hk' : (k : ℚ) + 1 ≤ n := by exact_mod_cast hk
      exact hnear.trans ((by linarith : 1 / 2 ≤ q - k).trans (le_abs_self _))
    · exact le_rfl
    · have hk' : (n : ℚ) + 1 ≤ k := by exact_mod_cast hk
      exact hnear.trans ((by linarith : 1 / 2 ≤ -(q - k)).trans (neg_le_abs _))
  · intro k hdistance
    rcases lt_trichotomy k n with hk | rfl | hk
    · -- the lesser one is not below zero, since the number is at most a half above it
      have hk' : q - k ≤ 1 / 2 := (le_abs_self _).trans (hdistance ▸ hnear)
      have hlow : (-1 : ℚ) < k := by linarith
      have hlow' : -1 < k := by exact_mod_cast hlow
      rw [abs_of_nonneg hnonneg, abs_of_nonneg (by omega)]
      exact hk.le
    · exact le_rfl
    · have hk' : (n : ℚ) + 1 ≤ k := by exact_mod_cast hk
      have hle : -(q - k) ≤ 1 / 2 := (neg_le_abs _).trans (hdistance ▸ hnear)
      linarith

/-- **The nearest integer is the one that is rounded to.** -/
theorem isNearest_iff {q : ℚ} {n : ℤ} : IsNearest q n ↔ n = roundAway q := by
  have hround : IsNearest q (roundAway q) := by
    wlog hq : 0 ≤ q generalizing q with hside
    · have hneg := (hside (neg_nonneg.2 (le_of_not_ge hq))).neg
      rwa [roundAway_eq_wholeWith, wholeWith_neg (by norm_num) (by norm_num), neg_neg, neg_neg] at hneg
    exact isNearest_of_nonneg hq
  constructor
  · intro h
    exact h.unique hround
  · rintro rfl
    exact hround

/-! ## The integer without the fraction -/

/-- The integer is no farther from zero than the number, and less than one away from the number. -/
structure IsTruncation (q : ℚ) (n : ℤ) : Prop where
  magnitude_le : |(n : ℚ)| ≤ |q|
  near : |q - n| < 1

/-- On the other side of zero it is the same. -/
theorem isTruncation_neg {q : ℚ} {n : ℤ} : IsTruncation (-q) (-n) ↔ IsTruncation q n := by
  have hdistance : |-q - (-n : ℤ)| = |q - n| := by
    rw [Int.cast_neg, neg_sub_neg, abs_sub_comm]
  have hmagnitude : |((-n : ℤ) : ℚ)| = |(n : ℚ)| := by rw [Int.cast_neg, abs_neg]
  constructor
  · rintro ⟨hle, hnear⟩
    rw [hmagnitude, abs_neg] at hle
    rw [hdistance] at hnear
    exact ⟨hle, hnear⟩
  · rintro ⟨hle, hnear⟩
    exact ⟨by rwa [hmagnitude, abs_neg], by rwa [hdistance]⟩

/-- **The integer without the fraction is the one that is cut off to.** -/
theorem isTruncation_iff {q : ℚ} {n : ℤ} : IsTruncation q n ↔ n = wholeWith 0 q := by
  wlog hq : 0 ≤ q generalizing q n with hside
  · rw [← isTruncation_neg, hside (neg_nonneg.2 (le_of_not_ge hq)), wholeWith_neg le_rfl one_pos,
      neg_inj]
  rw [wholeWith_of_nonneg hq, add_zero, eq_comm, Int.floor_eq_iff]
  constructor
  · rintro ⟨hle, hnear⟩
    rw [abs_of_nonneg hq] at hle
    exact ⟨(le_abs_self _).trans hle, by linarith [(abs_lt.1 hnear).2]⟩
  · rintro ⟨hlow, hhigh⟩
    -- an integer above minus one is not below zero
    have hnonneg : (0 : ℚ) ≤ n := by
      have hgt : (-1 : ℚ) < n := by linarith
      have hgt' : -1 < n := by exact_mod_cast hgt
      exact_mod_cast (by omega : 0 ≤ n)
    refine ⟨?_, abs_lt.2 ⟨by linarith, by linarith⟩⟩
    rwa [abs_of_nonneg hq, abs_of_nonneg hnonneg]

/-- The two integers are no more than one apart. -/
theorem abs_roundAway_sub_le (q : ℚ) : |roundAway q - wholeWith 0 q| ≤ 1 := by
  wlog hq : 0 ≤ q generalizing q with hside
  · have hneg := hside (-q) (neg_nonneg.2 (le_of_not_ge hq))
    rwa [roundAway_eq_wholeWith, wholeWith_neg (by norm_num) (by norm_num),
      wholeWith_neg le_rfl one_pos, neg_sub_neg, abs_sub_comm] at hneg
  rw [roundAway_eq_wholeWith, wholeWith_of_nonneg hq, wholeWith_of_nonneg hq, add_zero]
  have hlow : ⌊q⌋ ≤ ⌊q + 1 / 2⌋ := Int.floor_le_floor (by linarith)
  have hhigh : ⌊q + 1 / 2⌋ ≤ ⌊q + 1⌋ := Int.floor_le_floor (by linarith)
  rw [Int.floor_add_one] at hhigh
  rw [abs_le]
  omega

/-! ## The other sign -/

namespace Binary

variable {f : Format}

/-- The number with the other sign. -/
def negate : Binary f → Binary f
  | .nan => .nan
  | .infinite negative => .infinite !negative
  | .finite negative m e h => .finite (!negative) m e h

instance : Neg (Binary f) := ⟨negate⟩

theorem isFinite_neg (x : Binary f) : (-x).isFinite = x.isFinite := by
  cases x <;> rfl

theorem value_neg (x : Binary f) : (-x).value = -x.value := by
  cases x with
  | nan => exact neg_zero.symm
  | infinite negative => exact neg_zero.symm
  | finite negative m e h =>
      show (if !negative then -1 else 1) * ((m : ℚ) * (2 : ℚ) ^ e) =
        -((if negative then -1 else 1) * ((m : ℚ) * (2 : ℚ) ^ e))
      cases negative <;> simp

end Binary

/-! ## Whole pixels -/

namespace Pixels

/-- The conversion takes finite lengths to the whole number of pixels that `IsWhole` names, and what is
beyond 32 bits to the last number on its own side. -/
structure IsConversion (IsWhole : ℚ → ℤ → Prop) (convert : Option Double → ℤ) : Prop where
  /-- One whole number belongs to the length, and it is kept within 32 bits. -/
  exact : ∀ v : Double, v.isFinite = true → ∃ n : ℤ, (∀ n', IsWhole v.value n' ↔ n' = n) ∧
    convert (some v) = max least (min greatest n)
  /-- A greater length has no fewer pixels. -/
  monotone : ∀ v w : Double, v.isFinite = true → w.isFinite = true → v.value ≤ w.value →
    convert (some v) ≤ convert (some w)
  /-- Between the bounds the pixels turn over with the sign. -/
  odd : ∀ v : Double, v.isFinite = true → least < convert (some v) → convert (some v) < greatest →
    convert (some (-v)) = -convert (some v)
  /-- Nothing wraps around the bounds. -/
  saturates : ∀ v : Double, v.isFinite = true →
    ((greatest : ℚ) ≤ v.value → convert (some v) = greatest) ∧
      (v.value ≤ least → convert (some v) = least)
  /-- The token is that of no length on the other side of zero. -/
  keepsSign : ∀ v : Double, v.isFinite = true → ∀ px : ℤ,
    Spacing.token px = Spacing.token (convert (some v)) →
      (0 ≤ v.value → 0 ≤ px) ∧ (v.value ≤ 0 → px ≤ 0)

variable {c : ℚ} {IsWhole : ℚ → ℤ → Prop} {convert : Option Double → ℤ}

/-- All of it follows from the whole part of the magnitude with something less than one added. -/
theorem isConversion_of_wholeWith (hc : 0 ≤ c) (hc' : c < 1)
    (hwhole : ∀ q n, IsWhole q n ↔ n = wholeWith c q)
    (hconvert : ∀ v : Double, v.isFinite = true →
      convert (some v) = max least (min greatest (wholeWith c v.value))) :
    IsConversion IsWhole convert where
  exact := fun v hv => ⟨wholeWith c v.value, hwhole v.value, hconvert v hv⟩
  monotone := by
    intro v w hv hw hle
    have hmono := wholeWith_mono hc hc' hle
    rw [hconvert v hv, hconvert w hw]
    omega
  odd := by
    intro v hv hlow hhigh
    have hneg := hconvert (-v) (v.isFinite_neg ▸ hv)
    rw [Binary.value_neg, wholeWith_neg hc hc'] at hneg
    rw [hconvert v hv] at hlow hhigh ⊢
    rw [hneg]
    unfold least greatest at *
    omega
  saturates := by
    intro v hv
    rw [hconvert v hv]
    constructor
    · intro hle
      have hmono := wholeWith_mono hc hc' hle
      rw [wholeWith_intCast hc hc'] at hmono
      unfold least greatest at *
      omega
    · intro hle
      have hmono := wholeWith_mono hc hc' hle
      rw [wholeWith_intCast hc hc'] at hmono
      unfold least greatest at *
      omega
  keepsSign := by
    intro v hv px htoken
    obtain rfl := Spacing.token_injective htoken
    rw [hconvert v hv]
    unfold least greatest
    constructor
    · intro hnonneg
      have hwhole := wholeWith_nonneg hc hnonneg
      omega
    · intro hnonpos
      have hwhole := wholeWith_nonpos hc hc' hnonpos
      omega

/-- **Lengths become whole pixels by the nearest integer, or by the integer without the fraction.**  The
two are no more than one pixel apart, and the same for a length that is a whole number. -/
theorem isConversion_round_truncate :
    IsConversion IsNearest round ∧ IsConversion IsTruncation truncate ∧
    (∀ v : Double, v.isFinite = true → |round (some v) - truncate (some v)| ≤ 1) ∧
    ∀ v : Double, v.isFinite = true → ∀ n : ℤ, v.value = n → round (some v) = truncate (some v) := by
  have hround (v : Double) (hv : v.isFinite = true) :
      round (some v) = max least (min greatest (roundAway v.value)) :=
    Binary.roundWithin_eq hv least greatest
  have htruncate (v : Double) (hv : v.isFinite = true) :
      truncate (some v) = max least (min greatest (wholeWith 0 v.value)) :=
    Binary.truncateWithin_eq hv least greatest
  refine ⟨?_, ?_, ?_, ?_⟩
  · exact isConversion_of_wholeWith (by norm_num) (by norm_num) (fun _ _ => isNearest_iff) hround
  · exact isConversion_of_wholeWith le_rfl one_pos (fun _ _ => isTruncation_iff) htruncate
  · intro v hv
    have hnear := abs_le.1 (abs_roundAway_sub_le v.value)
    rw [hround v hv, htruncate v hv, abs_le]
    omega
  · intro v hv n hn
    rw [hround v hv, htruncate v hv, hn, roundAway_eq_wholeWith,
      wholeWith_intCast (by norm_num) (by norm_num), wholeWith_intCast le_rfl one_pos]

/-- The length just below a half. -/
def belowHalf : Double := .finite false 0x1FFFFFFFFFFFFF (-54) (by decide)

/-- A length far beyond 32 bits. -/
def farBeyond : Double := .finite false 0x10000000000000 200 (by decide)

/-- No pixel is nearest to less than a half, on both sides of zero, and what is far beyond 32 bits stays on
its side. -/
theorem isConversion_round_truncate_sample :
    IsNearest belowHalf.value 0 ∧ round (some (-belowHalf)) = 0 ∧
      round (some farBeyond) = greatest ∧ truncate (some (-farBeyond)) = least := by
  obtain ⟨hround, htruncate, -, -⟩ := isConversion_round_truncate
  have hzero : round (some belowHalf) = 0 := by decide +kernel
  have hfar : (greatest : ℚ) ≤ farBeyond.value ∧ (-farBeyond).value ≤ least := by
    rw [Binary.value_neg]
    norm_num [farBeyond, Binary.value, greatest, least]
  refine ⟨?_, ?_, ?_, ?_⟩
  · obtain ⟨n, hwhole, hn⟩ := hround.exact belowHalf rfl
    rw [hzero] at hn
    unfold least greatest at hn
    exact (hwhole 0).2 (by omega)
  · have hodd := hround.odd belowHalf rfl
    rw [hzero] at hodd
    exact hodd (by decide) (by decide)
  · exact (hround.saturates farBeyond rfl).1 hfar.1
  · exact (htruncate.saturates (-farBeyond) rfl).2 hfar.2

end Pixels

end CanvasExport
