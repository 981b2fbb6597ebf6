import CanvasExport.Binary.Text
import CanvasExport.Text.Blank
import Mathlib.Data.List.TakeWhile
import Mathlib.Tactic.Set
import Mathlib.Tactic.SplitIfs
/-!
# Letter case

Blanks, digits and signs are no letters, so they are found in a text in any letter case alike: trimming
commutes with lower case (`Text.trim_lower`), and so does taking a text without letters off an end
(`Text.before?_lower`).  A number is read alike in any letter case (`Binary.ofChars?_lower`): the letters
in it are the `e` of a power of ten and the words for what is not finite.
-/

namespace CanvasExport

namespace Text

/-! ## Characters -/

/-- The letters from `A` to `Z` have their lower case 32 places on, and other characters are kept. -/
theorem toNat_toLower (c : Char) :
    c.toLower.toNat = if 65 ≤ c.toNat ∧ c.toNat ≤ 90 then c.toNat + 32 else c.toNat := by
  have hletter : (c.val ≥ 'A'.val ∧ c.val ≤ 'Z'.val) ↔ 65 ≤ c.toNat ∧ c.toNat ≤ 90 :=
    and_congr UInt32.le_iff_toNat_le UInt32.le_iff_toNat_le
  unfold Char.toLower
  by_cases h : c.val ≥ 'A'.val ∧ c.val ≤ 'Z'.val
  · rw [dif_pos h, if_pos (hletter.1 h)]
    have hle := (hletter.1 h).2
    show (c.val + ('a'.val - 'A'.val)).toNat = c.toNat + 32
    rw [UInt32.toNat_add]
    exact Nat.mod_eq_of_lt (by show c.toNat + 32 < _; omega)
  · rw [dif_neg h, if_neg (mt hletter.2 h)]

/-- What is in lower case stays as it is. -/
theorem toLower_toLower (c : Char) : c.toLower.toLower = c.toLower := by
  apply Char.toNat_inj.1
  have h := toNat_toLower c
  rw [toNat_toLower c.toLower]
  split_ifs at h ⊢ <;> omega

/-- What is no letter, in either case, is the lower case of itself alone. -/
theorem toLower_eq_iff {a : Char} (ha : ¬ (65 ≤ a.toNat ∧ a.toNat ≤ 90 ∨ 97 ≤ a.toNat ∧ a.toNat ≤ 122))
    (c : Char) : c.toLower = a ↔ c = a := by
  rw [← Char.toNat_inj, ← Char.toNat_inj, toNat_toLower]
  split_ifs <;> omega

/-- Blanks are no letters. -/
theorem isBlank_toLower (c : Char) : isBlank c.toLower = isBlank c := by
  rw [Bool.eq_iff_iff]
  simp only [isBlank, toNat_toLower, Bool.or_eq_true, Bool.and_eq_true, decide_eq_true_eq]
  split_ifs <;> omega

/-- Digits are no letters. -/
theorem isDigit_toLower (c : Char) : c.toLower.isDigit = c.isDigit := by
  have hcode (a : Char) : a.isDigit = true ↔ 48 ≤ a.toNat ∧ a.toNat ≤ 57 := Char.isDigit_iff_toNat
  rw [Bool.eq_iff_iff, hcode, hcode, toNat_toLower]
  split_ifs <;> omega

/-! ## Texts -/

theorem lower_append (cs ds : List Char) : lower (cs ++ ds) = lower cs ++ lower ds := List.map_append

theorem lower_cons (c : Char) (cs : List Char) : lower (c :: cs) = c.toLower :: lower cs := rfl

theorem lower_reverse (cs : List Char) : lower cs.reverse = (lower cs).reverse := List.map_reverse

/-- What is in lower case stays as it is. -/
theorem lower_lower (cs : List Char) : lower (lower cs) = lower cs := by
  rw [lower, lower, List.map_map]
  exact List.map_congr_left fun c _ => toLower_toLower c

/-- Blanks are kept. -/
theorem trimStart_lower (cs : List Char) : trimStart (lower cs) = lower (trimStart cs) := by
  rw [trimStart, lower, List.dropWhile_map]
  exact congrArg (List.map Char.toLower) (congrArg (List.dropWhile · cs) (funext isBlank_toLower))

/-- Blanks around a text are taken off in any letter case. -/
theorem trim_lower (cs : List Char) : trim (lower cs) = lower (trim cs) := by
  rw [trim, trimEnd_eq_reverse, trimStart_lower, ← lower_reverse, trimStart_lower, ← lower_reverse,
    ← trimEnd_eq_reverse, trim]

/-- A beginning without letters is taken off in any letter case. -/
theorem after?_lower {p : List Char} (hp : ∀ a ∈ p, ∀ c : Char, c.toLower = a ↔ c = a)
    (cs : List Char) : after? p (lower cs) = (after? p cs).map lower := by
  induction p generalizing cs with
  | nil => rfl
  | cons a p ih =>
      cases cs with
      | nil => rfl
      | cons c cs =>
          have hc : a = c.toLower ↔ a = c := by
            rw [eq_comm, hp a List.mem_cons_self c, eq_comm]
          have htail := ih (fun b hb => hp b (List.mem_cons_of_mem a hb)) cs
          by_cases h : a = c
          · rw [lower_cons, after?, after?, if_pos h, if_pos (hc.2 h), htail]
          · rw [lower_cons, after?, after?, if_neg h, if_neg (mt hc.1 h), Option.map_none]

/-- An end without letters is taken off in any letter case. -/
theorem before?_lower {e : List Char} (he : ∀ a ∈ e, ∀ c : Char, c.toLower = a ↔ c = a)
    (cs : List Char) : before? e (lower cs) = (before? e cs).map lower := by
  have hreverse : ∀ a ∈ e.reverse, ∀ c : Char, c.toLower = a ↔ c = a :=
    fun a ha => he a (List.mem_reverse.1 ha)
  rw [before?, before?, ← lower_reverse, after?_lower hreverse, Option.map_map, Option.map_map]
  exact congrArg (Option.map · _) (funext fun rest => (lower_reverse rest).symm)

end Text

/-! ## Decimals -/

namespace Decimal

open Text

/-- The digits at the start are found in any letter case. -/
theorem takeWhile_isDigit_lower (cs : List Char) :
    (lower cs).takeWhile Char.isDigit = cs.takeWhile Char.isDigit := by
  rw [lower, List.takeWhile_map]
  have hdigit : Char.isDigit ∘ Char.toLower = Char.isDigit := funext isDigit_toLower
  rw [hdigit]
  refine (List.map_congr_left fun c hc => ?_).trans (List.map_id _)
  exact toLower_of_isDigit (List.mem_takeWhile_imp hc)

/-- What follows them is in lower case. -/
theorem dropWhile_isDigit_lower (cs : List Char) :
    (lower cs).dropWhile Char.isDigit = lower (cs.dropWhile Char.isDigit) := by
  rw [lower, List.dropWhile_map]
  exact congrArg (List.map Char.toLower) (congrArg (List.dropWhile · cs) (funext isDigit_toLower))

/-- A sign is found in any letter case. -/
theorem splitSign_lower (cs : List Char) :
    splitSign (lower cs) = ((splitSign cs).1, lower (splitSign cs).2) := by
  cases cs with
  | nil => rfl
  | cons c cs =>
      by_cases hminus : c = '-'
      · subst hminus
        rfl
      by_cases hplus : c = '+'
      · subst hplus
        rfl
      have hminus' : c.toLower ≠ '-' := mt (toLower_eq_iff (by decide) c).1 hminus
      have hplus' : c.toLower ≠ '+' := mt (toLower_eq_iff (by decide) c).1 hplus
      simp [splitSign, lower_cons, hminus, hplus, hminus', hplus']

/-- An integer is read alike in any letter case. -/
theorem int?_lower (cs : List Char) : int? (lower cs) = int? cs := by
  rw [int?, int?, splitSign_lower]
  dsimp only
  set digits := (splitSign cs).2
  have hall : (lower digits).all Char.isDigit = digits.all Char.isDigit := by
    rw [lower, List.all_map]
    exact congrArg (List.all digits) (funext isDigit_toLower)
  have hempty : (lower digits).isEmpty = digits.isEmpty := List.isEmpty_map
  rw [hall, hempty]
  by_cases h : digits.all Char.isDigit = true
  · have hkept : lower digits = digits :=
      (List.map_congr_left fun c hc => toLower_of_isDigit (List.all_eq_true.1 h c hc)).trans
        (List.map_id _)
    rw [hkept]
  · rw [Bool.not_eq_true] at h
    simp [h]

/-- A power of ten is read alike in any letter case. -/
theorem power?_lower (cs : List Char) : power? (lower cs) = power? cs := by
  cases cs with
  | nil => rfl
  | cons c cs =>
      have hletter : (c.toLower = 'e' ∨ c.toLower = 'E') ↔ (c = 'e' ∨ c = 'E') := by
        simp only [← Char.toNat_inj, toNat_toLower, Char.reduceToNat]
        split_ifs <;> omega
      rw [lower_cons, power?, power?, int?_lower]
      simp only [hletter]

/-- A fraction is found in any letter case. -/
theorem splitFraction_lower (cs : List Char) :
    splitFraction (lower cs) = ((splitFraction cs).1, lower (splitFraction cs).2) := by
  cases cs with
  | nil => rfl
  | cons c cs =>
      by_cases hpoint : c = '.'
      · subst hpoint
        have hlower : lower ('.' :: cs) = '.' :: lower cs := rfl
        rw [hlower, splitFraction, splitFraction, takeWhile_isDigit_lower, dropWhile_isDigit_lower]
      · have hpoint' : c.toLower ≠ '.' := mt (toLower_eq_iff (by decide) c).1 hpoint
        simp [splitFraction, lower_cons, hpoint, hpoint']

/-- A decimal is read alike in any letter case. -/
theorem ofChars?_lower (cs : List Char) : ofChars? (lower cs) = ofChars? cs := by
  rw [ofChars?, ofChars?, splitSign_lower]
  dsimp only
  rw [takeWhile_isDigit_lower, dropWhile_isDigit_lower, splitFraction_lower]
  dsimp only
  rw [power?_lower]

end Decimal

/-- **A number is read alike in any letter case.** -/
theorem Binary.ofChars?_lower (f : Format) (cs : List Char) :
    ofChars? f (Text.lower cs) = ofChars? f cs := by
  have hword : (Text.lower (Decimal.splitSign cs).2).map Char.toLower =
      (Decimal.splitSign cs).2.map Char.toLower := Text.lower_lower _
  rw [ofChars?, ofChars?, Decimal.ofChars?_lower, Decimal.splitSign_lower]
  dsimp only
  rw [hword]

end CanvasExport
