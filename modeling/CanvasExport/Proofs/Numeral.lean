import CanvasExport.Proofs.JsonText
import CanvasExport.Proofs.Rounding
/-!
# Numbers in JSON texts

The text of a finite number is a number of JSON (`isNumeral_of_numeral?`), and it is read as the
number that was written (`Numeric.ofLiteral_of_numeral?`), whether its digits are written out or a
power of ten stands behind them.  What is not finite has no such text.
-/

namespace CanvasExport

-- powers of naturals are the core library's
attribute [local instance (2000)] instPowNat

/-! ## The form of a number -/

namespace Json

/-- Digits lead nowhere new where any digit may stand. -/
theorem Phase.after?_digits {phase : Phase}
    (hphase : ∀ c, c.isDigit = true → phase.next? c = some phase) {ds : List Char}
    (hds : ∀ c ∈ ds, c.isDigit = true) : phase.after? ds = some phase := by
  induction ds with
  | nil => rfl
  | cons c ds ih =>
      rw [after?_cons, hphase c (hds c List.mem_cons_self), Option.bind_some,
        ih fun d hd => hds d (List.mem_cons_of_mem c hd)]

/-- Some digits lead to the phase of digits that the first of them begins. -/
theorem Phase.after?_digits_of_ne_nil {phase next : Phase}
    (hphase : ∀ c, c.isDigit = true → phase.next? c = some next)
    (hnext : ∀ c, c.isDigit = true → next.next? c = some next) {ds : List Char} (hne : ds ≠ [])
    (hds : ∀ c ∈ ds, c.isDigit = true) : phase.after? ds = some next := by
  obtain ⟨c, cs, rfl⟩ := List.exists_cons_of_ne_nil hne
  rw [after?_cons, hphase c (hds c List.mem_cons_self), Option.bind_some,
    after?_digits hnext fun d hd => hds d (List.mem_cons_of_mem c hd)]

theorem Phase.next?_whole {c : Char} (hc : c.isDigit = true) :
    Phase.whole.next? c = some .whole := by simp [next?, hc]

theorem Phase.next?_point {c : Char} (hc : c.isDigit = true) :
    Phase.point.next? c = some .fraction := by simp [next?, hc]

theorem Phase.next?_fraction {c : Char} (hc : c.isDigit = true) :
    Phase.fraction.next? c = some .fraction := by simp [next?, hc]

theorem Phase.next?_powerSign {c : Char} (hc : c.isDigit = true) :
    Phase.powerSign.next? c = some .powerDigits := by simp [next?, hc]

theorem Phase.next?_powerDigits {c : Char} (hc : c.isDigit = true) :
    Phase.powerDigits.next? c = some .powerDigits := by simp [next?, hc]

/-- The first phase of a number behind its sign. -/
def Phase.ofZero (isZero : Bool) : Phase := if isZero then .zero else .whole

/-- A natural is written without zeros in front. -/
theorem Phase.after?_toDigits (n : Nat) :
    Phase.minus.after? (Nat.toDigits 10 n) = some (Phase.ofZero (n = 0)) := by
  induction n using Nat.strong_induction_on with
  | _ n ih =>
      have hdigit (d : Nat) (hd : d < 10) : (Nat.digitChar d).isDigit = true := by
        simp [Nat.isDigit_digitChar, hd]
      by_cases hn : n < 10
      · rw [Nat.toDigits_of_lt_base hn, after?_cons]
        simp only [next?, Nat.digitChar_eq_zero, hdigit n hn, if_true, ofZero, decide_eq_true_eq]
        split <;> rfl
      · have hfront : n / 10 ≠ 0 := by omega
        have hn0 : n ≠ 0 := by omega
        rw [Nat.toDigits_of_base_le (by decide) (by omega), after?_append, ih (n / 10) (by omega)]
        simp only [ofZero, hfront, hn0, decide_false, Bool.false_eq_true, if_false,
          Option.bind_some, after?_cons]
        rw [next?_whole (hdigit _ (Nat.mod_lt n (by decide)))]
        rfl

/-- The phases that a first digit leads to. -/
theorem Phase.exists_next?_minus {c : Char} (hc : c.isDigit = true) :
    ∃ isZero, Phase.minus.next? c = some (Phase.ofZero isZero) := by
  by_cases hzero : c = '0'
  · exact ⟨true, by simp [next?, ofZero, hzero]⟩
  · exact ⟨false, by simp [next?, ofZero, hzero, hc]⟩

theorem Phase.next?_ofZero_point (isZero : Bool) :
    (Phase.ofZero isZero).next? '.' = some .point := by cases isZero <;> rfl

theorem Phase.next?_ofZero_power (isZero : Bool) :
    (Phase.ofZero isZero).next? 'e' = some .power := by cases isZero <;> rfl

/-- A natural, a point and digits are a number. -/
theorem Phase.after?_point (n : Nat) {fs : List Char} (hne : fs ≠ [])
    (hfs : ∀ c ∈ fs, c.isDigit = true) :
    Phase.minus.after? (Nat.toDigits 10 n ++ '.' :: fs) = some .fraction := by
  rw [after?_append, after?_toDigits, Option.bind_some, after?_cons, next?_ofZero_point,
    Option.bind_some]
  exact after?_digits_of_ne_nil (fun _ => next?_point) (fun _ => next?_fraction) hne hfs

/-- The letter of a power, a sign and a natural end a number. -/
theorem Phase.after?_power {phase : Phase} (hphase : phase.next? 'e' = some .power)
    (negative : Bool) (n : Nat) :
    phase.after? ('e' :: (if negative then '-' else '+') :: Nat.toDigits 10 n) =
      some .powerDigits := by
  have hsign : Phase.power.next? (if negative then '-' else '+') = some .powerSign := by
    cases negative <;> rfl
  rw [after?_cons, hphase, Option.bind_some, after?_cons, hsign, Option.bind_some]
  exact after?_digits_of_ne_nil (fun _ => next?_powerSign) (fun _ => next?_powerDigits)
    (Decimal.toDigits_ne_nil n) (Decimal.isDigit_toDigits n)

end Json

open Json

namespace Decimal

/-- The digits of the significand as they stand in front of a power of ten. -/
def mantissa (d : Decimal) : List Char :=
  match Nat.toDigits 10 d.significand with
  | first :: second :: rest => first :: '.' :: second :: rest
  | digits => digits

theorem scientific_eq (d : Decimal) :
    d.scientific = signChars d.negative ++ (d.mantissa ++
      'e' :: (if d.leadingExponent < 0 then '-' else '+') ::
        Nat.toDigits 10 d.leadingExponent.natAbs) := by
  rw [scientific, List.append_assoc]
  rfl

/-- There is one digit, or there are digits behind the first one. -/
theorem mantissa_cases (d : Decimal) :
    (∃ first, Nat.toDigits 10 d.significand = [first] ∧ d.mantissa = [first]) ∨
      ∃ first fs, Nat.toDigits 10 d.significand = first :: fs ∧ fs ≠ [] ∧
        d.mantissa = first :: '.' :: fs := by
  obtain ⟨first, fs, hdigits⟩ := List.exists_cons_of_ne_nil (toDigits_ne_nil d.significand)
  cases fs with
  | nil => exact .inl ⟨first, hdigits, by rw [mantissa, hdigits]⟩
  | cons second rest =>
      exact .inr ⟨first, second :: rest, hdigits, List.cons_ne_nil _ _, by rw [mantissa, hdigits]⟩

/-- The digits in front of a power of ten may be followed by it. -/
theorem exists_after?_mantissa (d : Decimal) :
    ∃ phase, Phase.minus.after? d.mantissa = some phase ∧ phase.next? 'e' = some .power := by
  have hdigits := isDigit_toDigits d.significand
  rcases mantissa_cases d with ⟨first, heq, hmantissa⟩ | ⟨first, fs, heq, hne, hmantissa⟩
  all_goals
    rw [heq] at hdigits
    obtain ⟨isZero, hfirst⟩ := Phase.exists_next?_minus (hdigits first List.mem_cons_self)
    rw [hmantissa, Phase.after?_cons, hfirst, Option.bind_some]
  · exact ⟨_, rfl, Phase.next?_ofZero_power isZero⟩
  · refine ⟨.fraction, ?_, rfl⟩
    rw [Phase.after?_cons, Phase.next?_ofZero_point, Option.bind_some]
    exact Phase.after?_digits_of_ne_nil (fun _ => Phase.next?_point)
      (fun _ => Phase.next?_fraction) hne fun c hc => hdigits c (List.mem_cons_of_mem first hc)

/-- A decimal with a power of ten is a number. -/
theorem isNumeral_scientific (d : Decimal) : IsNumeral d.scientific := by
  obtain ⟨phase, hmantissa, hpower⟩ := exists_after?_mantissa d
  refine ⟨d.negative, _, .powerDigits, d.scientific_eq, ?_, rfl⟩
  rw [Phase.after?_append, hmantissa, Option.bind_some]
  simpa using Phase.after?_power hpower (d.leadingExponent < 0) d.leadingExponent.natAbs

/-- The zeros of a power of ten stand behind the digits. -/
theorem toDigits_mul_pow {n : Nat} (hn : 0 < n) (k : Nat) :
    Nat.toDigits 10 (n * 10 ^ k) = Nat.toDigits 10 n ++ List.replicate k '0' := by
  induction k with
  | zero => simp
  | succ k ih =>
      have hpos : 0 < n * 10 ^ k := Nat.mul_pos hn (Nat.pow_pos (by decide))
      rw [Nat.pow_succ, ← Nat.mul_assoc, Nat.toDigits_of_base_le (by decide) (by omega),
        Nat.mul_div_cancel _ (by decide), Nat.mul_mod_left, ih, List.replicate_succ',
        List.append_assoc]
      rfl

/-- A decimal with all digits written out and at least one of them behind the point is a number;
zero must not have zeros in front of the point. -/
theorem isNumeral_positional {d : Decimal} (hd : d.significand = 0 → d.exponent ≤ 0) :
    IsNumeral (d.positional ++ if 0 ≤ d.exponent then ['.', '0'] else []) := by
  unfold positional
  by_cases h : 0 ≤ d.exponent
  · rw [if_pos h, if_pos h, List.append_assoc]
    have hzeros : ∀ c ∈ ['0'], c.isDigit = true := List.forall_mem_singleton.2 rfl
    refine ⟨d.negative, _, .fraction, rfl, ?_, rfl⟩
    have hdigits : Nat.toDigits 10 d.significand ++ List.replicate d.exponent.toNat '0' =
        Nat.toDigits 10 (d.significand * 10 ^ d.exponent.toNat) := by
      rcases Nat.eq_zero_or_pos d.significand with hzero | hpos
      · have hexp : d.exponent.toNat = 0 := by have := hd hzero; omega
        rw [hexp, List.replicate_zero, List.append_nil, Nat.pow_zero, Nat.mul_one]
      · exact (toDigits_mul_pow hpos _).symm
    rw [hdigits]
    exact Phase.after?_point _ (List.cons_ne_nil _ _) hzeros
  · rw [if_neg h, if_neg h, List.append_nil]
    refine ⟨d.negative, _, .fraction, rfl, ?_, rfl⟩
    have hplaces : 0 < (-d.exponent).toNat := by omega
    have hlt : d.significand % 10 ^ (-d.exponent).toNat < 10 ^ (-d.exponent).toNat :=
      Nat.mod_lt _ (Nat.pow_pos (by decide))
    refine Phase.after?_point _ ?_ fun c hc => isDigit_of_mem_padded hc
    exact List.ne_nil_of_length_pos (by rw [length_padded hlt hplaces]; exact hplaces)

/-! ## Reading -/

/-- An integer with its sign is read. -/
theorem int?_sign (n : Int) :
    int? ((if n < 0 then '-' else '+') :: Nat.toDigits 10 n.natAbs) = some n := by
  have hdigits : (Nat.toDigits 10 n.natAbs).all Char.isDigit = true :=
    List.all_eq_true.2 (isDigit_toDigits _)
  have hne : (Nat.toDigits 10 n.natAbs).isEmpty = false :=
    List.isEmpty_eq_false_iff.2 (toDigits_ne_nil _)
  by_cases h : n < 0
  · rw [if_pos h, int?]
    simp only [splitSign, hdigits, hne]
    simp [Nat.ofDigitChars_ten_toDigits, abs_of_neg h]
  · rw [if_neg h, int?]
    simp only [splitSign, hdigits, hne]
    simp [Nat.ofDigitChars_ten_toDigits, abs_of_nonneg (not_lt.1 h)]

/-- What is no sign stands behind the sign. -/
theorem mem_splitSign {cs : List Char} {c : Char} (hc : c ∈ cs) (hminus : c ≠ '-') (hplus : c ≠ '+') :
    c ∈ (splitSign cs).2 := by
  unfold splitSign
  split
  · exact (List.mem_cons.1 hc).resolve_left hminus
  · exact (List.mem_cons.1 hc).resolve_left hplus
  · exact hc

/-- What is not made of digits is no integer. -/
theorem int?_eq_none {cs : List Char} {c : Char} (hc : c ∈ cs) (hdigit : c.isDigit = false)
    (hminus : c ≠ '-') (hplus : c ≠ '+') : int? cs = none := by
  have hall : (splitSign cs).2.all Char.isDigit = false :=
    List.all_eq_false.2 ⟨c, mem_splitSign hc hminus hplus, by simp [hdigit]⟩
  unfold int?
  simp [hall]

/-- What is no digit stands behind the digits at the start. -/
theorem mem_dropWhile_isDigit {cs : List Char} {c : Char} (hc : c ∈ cs) (hdigit : c.isDigit = false) :
    c ∈ cs.dropWhile Char.isDigit := by
  rw [← List.takeWhile_append_dropWhile (p := Char.isDigit) (l := cs)] at hc
  refine (List.mem_append.1 hc).resolve_left fun htake => ?_
  rw [List.mem_takeWhile_imp htake] at hdigit
  cases hdigit

/-- What is neither a digit nor the point stands behind the fraction. -/
theorem mem_splitFraction {cs : List Char} {c : Char} (hc : c ∈ cs) (hdigit : c.isDigit = false)
    (hpoint : c ≠ '.') : c ∈ (splitFraction cs).2 := by
  unfold splitFraction
  split
  · exact mem_dropWhile_isDigit ((List.mem_cons.1 hc).resolve_left hpoint) hdigit
  · exact hc

/-- What is neither a digit nor a sign nor `e` is in no power of ten. -/
theorem power?_eq_none {cs : List Char} {c : Char} (hc : c ∈ cs) (hdigit : c.isDigit = false)
    (hmark : c ∉ ['-', '+', 'e', 'E']) : power? cs = none := by
  simp only [List.mem_cons, List.not_mem_nil, or_false, not_or] at hmark
  obtain ⟨hminus, hplus, he, hE⟩ := hmark
  cases cs with
  | nil => cases hc
  | cons first cs =>
      by_cases hfirst : first = 'e' ∨ first = 'E'
      · have hne : c ≠ first := by
          rintro rfl
          exact hfirst.elim he hE
        rw [power?, if_pos hfirst,
          int?_eq_none ((List.mem_cons.1 hc).resolve_left hne) hdigit hminus hplus]
      · rw [power?, if_neg hfirst]

/-- What has a character that is no digit, sign, point or `e` is no decimal. -/
theorem ofChars?_eq_none {cs : List Char} {c : Char} (hc : c ∈ cs) (hdigit : c.isDigit = false)
    (hmark : c ∉ ['-', '+', '.', 'e', 'E']) : ofChars? cs = none := by
  have hsign : c ≠ '-' ∧ c ≠ '+' ∧ c ≠ '.' ∧ c ∉ ['-', '+', 'e', 'E'] := by
    simp only [List.mem_cons, List.not_mem_nil, or_false, not_or] at hmark ⊢
    tauto
  obtain ⟨hminus, hplus, hpoint, hpower⟩ := hsign
  have hrest := mem_dropWhile_isDigit (mem_splitSign hc hminus hplus) hdigit
  have hnone := power?_eq_none (mem_splitFraction hrest hdigit hpoint) hdigit hpower
  unfold ofChars?
  simp [hnone]

/-- A decimal without a fraction reads back with a zero behind the point. -/
theorem ofChars?_positional_point (d : Decimal) (hexp : 0 ≤ d.exponent) :
    ofChars? (d.positional ++ ['.', '0']) =
      some ⟨d.negative, d.significand * 10 ^ d.exponent.toNat * 10, -1⟩ := by
  have hdigits : ∀ c ∈ Nat.toDigits 10 d.significand ++ List.replicate d.exponent.toNat '0',
      c.isDigit = true := by
    intro c hc
    rcases List.mem_append.1 hc with hc | hc
    · exact isDigit_toDigits _ c hc
    · rw [List.eq_of_mem_replicate hc]
      rfl
  rw [positional, if_pos hexp, List.append_assoc,
    ofChars?_point d.negative (List.append_ne_nil_of_left_ne_nil (toDigits_ne_nil _) _) hdigits
      (List.forall_mem_singleton.2 rfl), Nat.ofDigitChars_append, Nat.ofDigitChars_append,
    Nat.ofDigitChars_ten_toDigits, Nat.ofDigitChars_replicate_zero, Nat.mul_comm (10 ^ d.exponent.toNat), Nat.mul_comm _ 10]
  rfl

/-- **A decimal with a power of ten reads back.** -/
theorem ofChars?_scientific (d : Decimal) : ofChars? d.scientific = some d := by
  have hdigits := isDigit_toDigits d.significand
  have hpower : power? ('e' :: (if d.leadingExponent < 0 then '-' else '+') ::
      Nat.toDigits 10 d.leadingExponent.natAbs) = some d.leadingExponent := by
    rw [power?, if_pos (.inl rfl), int?_sign]
  have hvalue := Nat.ofDigitChars_ten_toDigits (n := d.significand)
  have htail : ∀ c ∈ ('e' :: (if d.leadingExponent < 0 then '-' else '+') ::
      Nat.toDigits 10 d.leadingExponent.natAbs).head?, c = 'e' := by
    rintro c ⟨⟩
    rfl
  rw [scientific_eq]
  rcases mantissa_cases d with ⟨first, heq, hmantissa⟩ | ⟨first, fs, heq, hne, hmantissa⟩
  · rw [heq] at hdigits hvalue
    have hexp : d.leadingExponent = d.exponent := by simp [leadingExponent, heq]
    rw [hmantissa, ofChars?_digits_power d.negative (List.cons_ne_nil _ _) hdigits htail, hpower,
      hvalue, hexp]
    rfl
  · rw [heq] at hdigits hvalue
    have hexp : d.leadingExponent - fs.length = d.exponent := by simp [leadingExponent, heq]
    have hsplit : d.mantissa ++ 'e' :: (if d.leadingExponent < 0 then '-' else '+') ::
          Nat.toDigits 10 d.leadingExponent.natAbs =
        [first] ++ '.' :: (fs ++ 'e' :: (if d.leadingExponent < 0 then '-' else '+') ::
          Nat.toDigits 10 d.leadingExponent.natAbs) := by
      rw [hmantissa]
      rfl
    rw [hsplit, ofChars?_point_power d.negative (List.cons_ne_nil _ _)
      (fun c hc => hdigits c (List.mem_cons.2 (.inl (List.mem_singleton.1 hc))))
      (fun c hc => hdigits c (List.mem_cons_of_mem first hc)) htail, hpower, List.singleton_append,
      hvalue, Option.map_some, hexp]

end Decimal

/-! ## Numbers of a format -/

namespace Binary

variable {f : Format}

/-- The shortest decimal of zero has no power of ten. -/
theorem shortest_exponent_of_significand_eq_zero (hf : f.Spans) (tie : Tie) (negative : Bool)
    {m : Nat} {e : Int} (h : f.Canonical m e)
    (hzero : (shortest tie negative m e h).significand = 0) :
    (shortest tie negative m e h).exponent = 0 := by
  by_cases hm : m = 0
  · rw [shortest, if_pos hm]
  · have hread := ofDecimal_shortest hf tie negative h
    rw [ofDecimal, if_pos hzero, zero, Binary.finite.injEq] at hread
    exact absurd hread.2.1.symm hm

/-- **The text of a finite number is a number of JSON.** -/
theorem isNumeral_of_numeral? (hf : f.Spans) {bounds : Positional} {x : Binary f}
    {literal : List Char} (h : x.numeral? bounds = some literal) : IsNumeral literal := by
  cases x with
  | nan => cases h
  | infinite negative => cases h
  | finite negative m e hcanonical =>
      obtain rfl := Option.some.inj h
      unfold numeralOf
      split
      · exact Decimal.isNumeral_positional fun hzero =>
          (shortest_exponent_of_significand_eq_zero hf .even negative hcanonical hzero).le
      · exact Decimal.isNumeral_scientific _

/-- Exactly the finite numbers have a text. -/
theorem isSome_numeral? (bounds : Positional) (x : Binary f) :
    (x.numeral? bounds).isSome = x.isFinite := by cases x <;> rfl

/-- The text of a decimal is read as a decimal of the same number and sign. -/
theorem exists_ofChars?_numeralOf (bounds : Positional) (d : Decimal) :
    ∃ d', Decimal.ofChars? (numeralOf bounds d) = some d' ∧ d'.negative = d.negative ∧
      d'.value = d.value := by
  unfold numeralOf
  split
  · split
    · rename_i hexp
      refine ⟨_, d.ofChars?_positional_point hexp, rfl, ?_⟩
      rw [← d.value_written, Decimal.written, if_pos hexp]
      simp only [Decimal.value]
      push_cast
      rw [zpow_neg_one]
      ring
    · rename_i hexp
      refine ⟨d.written, ?_, ?_, d.value_written⟩
      · rw [List.append_nil, Decimal.ofChars?_positional]
      · rw [Decimal.written, if_neg hexp]
  · exact ⟨d, d.ofChars?_scientific, rfl, rfl⟩

/-- The text of a decimal has a point or a power of ten. -/
theorem exists_mem_numeralOf (bounds : Positional) (d : Decimal) :
    ∃ c ∈ numeralOf bounds d, c = '.' ∨ c = 'e' := by
  unfold numeralOf
  split
  · split
    · exact ⟨'.', List.mem_append_right _ List.mem_cons_self, .inl rfl⟩
    · rename_i hexp
      refine ⟨'.', ?_, .inl rfl⟩
      rw [Decimal.positional, if_neg hexp]
      simp
  · refine ⟨'e', ?_, .inr rfl⟩
    rw [Decimal.scientific_eq]
    simp

/-- **The text of a finite number is read as the number.** -/
theorem ofLiteral_of_numeral? {bounds : Positional} {x : Double} {literal : List Char}
    (h : x.numeral? bounds = some literal) : Numeric.ofLiteral literal = .ok (.real x) := by
  cases x with
  | nan => cases h
  | infinite negative => cases h
  | finite negative m e hcanonical =>
      obtain rfl := Option.some.inj h
      set d := shortest .even negative m e hcanonical
      obtain ⟨d', hd', hnegative, hvalue⟩ := exists_ofChars?_numeralOf bounds d
      obtain ⟨c, hc, hmark⟩ := exists_mem_numeralOf bounds d
      have hint : Decimal.int? (numeralOf bounds d) = none := by
        rcases hmark with rfl | rfl <;> exact Decimal.int?_eq_none hc rfl (by decide) (by decide)
      have hreal : Binary.ofChars? .double (numeralOf bounds d) =
          some (.finite negative m e hcanonical) := by
        rw [Binary.ofChars?, hd']
        show some (ofDecimal .double d') = _
        rw [ofDecimal_congr Format.spans_double hnegative hvalue,
          ofDecimal_shortest Format.spans_double]
      rw [Numeric.ofLiteral, hint, hreal]
      rfl

/-- A number is its own nearest number. -/
theorem convert_self (hf : f.Spans) (x : Binary f) : x.convert f = x := by
  cases x with
  | nan => rfl
  | infinite negative => rfl
  | finite negative m e h => exact round_ratio hf.precision_pos negative h

end Binary

end CanvasExport
