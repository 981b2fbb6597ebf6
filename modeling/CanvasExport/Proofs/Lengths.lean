import CanvasExport.Proofs.Exact
import CanvasExport.Proofs.Resolver
import CanvasExport.Proofs.Session
import CanvasExport.Proofs.Shortest
/-!
# Lengths and their tokens

A spacing token is the length in pixels over four, written as a decimal expansion, but for the word `px`
of the fixed scale; the length that it stands for is written in rem as the expansion of the pixels over
sixteen.  Both are what doubles of the pixels give (`Spacing.derived_eq_toText`, `Spacing.rem_eq_toText`),
since these are divided and multiplied without rounding and written with the fewest digits that read
back.  So different lengths have different tokens, whatever tokens there are
(`Spacing.resolve_unambiguous`).
-/

namespace CanvasExport

-- powers of naturals are the core library's
attribute [local instance (2000)] instPowNat

/-! ## Small quotients -/

/-- The format holds a natural of few enough bits over a power of two. -/
theorem Format.holds_div_two_pow {n k : Nat} (hn : n < 2 ^ Format.double.precision) (hk : k ≤ 1074) :
    Format.double.Holds (n / (2 : ℚ) ^ k) := by
  have hmin : Format.double.minExponent = -1074 := rfl
  have hmax : Format.double.maxExponent = 971 := rfl
  refine ⟨n, -k, hn, by omega, by omega, ?_⟩
  rw [zpow_neg, zpow_natCast, div_eq_mul_inv]

/-- **The text of a 32-bit natural over a small power of two is its expansion.**  Its last digit counts
for much more than its last bit. -/
theorem Binary.toChars_of_isExactly {x : Double} {negative : Bool} {n k : Nat}
    (hx : x.IsExactly negative (n / (2 : ℚ) ^ k)) (hn : n ≤ 2 ^ 31) (hk : k ≤ 4) :
    x.toChars = (Decimal.halved negative n k).positional := by
  obtain ⟨m, e, h, rfl, hvalue⟩ := hx
  set d := Decimal.halved negative n k with hd
  have hsign : d.negative = negative := by
    rw [hd, Decimal.halved, Decimal.normalize_negative]
  have habs : |d.value| = n / (2 : ℚ) ^ k := by
    rw [hd, Decimal.value_halved, abs_div, abs_mul]
    cases negative <;> simp
  have hfour : (10 : ℚ) ^ (-4 : Int) ≤ 10 ^ d.exponent := by
    have hexp : -(k : Int) ≤ d.exponent := Decimal.le_exponent_halved negative n k
    exact zpow_le_zpow_right₀ (by norm_num) (by omega)
  have hle : (n : ℚ) / 2 ^ k ≤ 2 ^ 31 := by
    refine (div_le_self (Nat.cast_nonneg n) (one_le_pow₀ one_le_two)).trans ?_
    exact_mod_cast hn
  have hunit : (2 : ℚ) ^ (e - 1) < 10 ^ d.exponent := by
    have hexp : e ≤ -21 := by
      rcases h.2.2.2 with hmin | hfull
      · have : Format.double.minExponent = -1074 := rfl
        omega
      · have hfull' : (2 : ℚ) ^ (52 : Int) ≤ m := by exact_mod_cast hfull
        have hlt : (2 : ℚ) ^ (52 + e) < 2 ^ (32 : Int) := by
          calc (2 : ℚ) ^ (52 + e) = 2 ^ (52 : Int) * 2 ^ e := zpow_add₀ two_ne_zero _ _
            _ ≤ m * 2 ^ e := by gcongr
            _ ≤ 2 ^ 31 := hvalue ▸ hle
            _ < 2 ^ (32 : Int) := by norm_num
        have := (zpow_lt_zpow_iff_right₀ one_lt_two).1 hlt
        omega
    calc (2 : ℚ) ^ (e - 1) ≤ 2 ^ (-22 : Int) := zpow_le_zpow_right₀ one_le_two (by omega)
      _ < 10 ^ (-4 : Int) := by norm_num
      _ ≤ 10 ^ d.exponent := hfour
  have hdigits : (Nat.toDigits 10 d.significand).length ≤ Format.double.maxDigits := by
    refine Decimal.length_toDigits_le ?_ (by decide)
    have hlt : (d.significand : ℚ) < 10 ^ 17 := by
      have hmagnitude : (d.significand : ℚ) * 10 ^ d.exponent ≤ 2 ^ 31 := by
        rw [← Binary.abs_value_eq, habs]
        exact hle
      have hscaled : (d.significand : ℚ) * 10 ^ (-4 : Int) ≤ 2 ^ 31 :=
        (mul_le_mul_of_nonneg_left hfour (Nat.cast_nonneg _)).trans hmagnitude
      rw [zpow_neg, ← div_eq_mul_inv, div_le_iff₀ (by norm_num)] at hscaled
      exact hscaled.trans_lt (by norm_num)
    exact_mod_cast hlt
  have hreduced : d.IsReduced := Decimal.isReduced_normalize _
  have hshortest := shortest_eq (h := h) Format.spans_double .up hreduced
    (hvalue.trans habs.symm) hunit hdigits
  rw [hsign] at hshortest
  exact congrArg Decimal.positional hshortest

namespace Spacing

/-! ## Lengths as doubles -/

/-- The length in rem. -/
def remDouble (px : Int) : Double := (Binary.ofInt .double px).scale 1 16

/-- The length in steps of the scale, of which a rem has four. -/
def stepsDouble (px : Int) : Double := (remDouble px).scale 4 1

/-- Pixels have few enough bits for a double. -/
theorem natAbs_le {px : Int} (h : Pixels.InRange px) : px.natAbs ≤ 2 ^ 31 := by
  have hbounds : -0x80000000 ≤ px ∧ px ≤ 0x7FFFFFFF := h
  omega

/-- Dividing by sixteen is exact. -/
theorem isExactly_remDouble {px : Int} (h : Pixels.InRange px) :
    (remDouble px).IsExactly (px < 0) (px.natAbs / (2 : ℚ) ^ 4) := by
  have hbits : px.natAbs < 2 ^ Format.double.precision :=
    (natAbs_le h).trans_lt (Nat.pow_lt_pow_right (by decide) (by decide))
  have hint : (Binary.ofInt .double px).IsExactly (px < 0) px.natAbs := by
    refine Binary.isExactly_ofInt (by decide) ?_
    have hholds := @Format.holds_div_two_pow px.natAbs 0 hbits (by decide)
    rwa [pow_zero, div_one] at hholds
  have hsame : (px.natAbs : ℚ) * (1 : Nat) / (16 : Nat) = px.natAbs / 2 ^ 4 := by norm_num
  have hscale := hint.scale (by decide) 1 (by decide : 0 < 16)
    (hsame ▸ Format.holds_div_two_pow hbits (by decide))
  rwa [hsame] at hscale

/-- So is multiplying by four. -/
theorem isExactly_stepsDouble {px : Int} (h : Pixels.InRange px) :
    (stepsDouble px).IsExactly (px < 0) (px.natAbs / (2 : ℚ) ^ 2) := by
  have hbits : px.natAbs < 2 ^ Format.double.precision :=
    (natAbs_le h).trans_lt (Nat.pow_lt_pow_right (by decide) (by decide))
  have hsame : (px.natAbs : ℚ) / 2 ^ 4 * (4 : Nat) / (1 : Nat) = px.natAbs / 2 ^ 2 := by
    push_cast
    ring
  have hscale := (isExactly_remDouble h).scale (by decide) 4 Nat.one_pos
    (hsame ▸ Format.holds_div_two_pow hbits (by decide))
  rwa [hsame] at hscale

/-- A double of this sign and magnitude is the quotient. -/
theorem value_of_isExactly {x : Double} {px : Int} {k : Nat}
    (h : x.IsExactly (px < 0) (px.natAbs / (2 : ℚ) ^ k)) : x.value = px / (2 : ℚ) ^ k := by
  rw [h.value_eq, ← mul_div_assoc, ← Decimal.value_halved, value_halved_natAbs]

/-- **A derived token is the text of the length in steps of the scale.** -/
theorem derived_eq_toText {px : Int} (h : Pixels.InRange px) :
    derived px = (stepsDouble px).toText := by
  rw [Binary.toText, Binary.toChars_of_isExactly (isExactly_stepsDouble h) (natAbs_le h) (by decide)]
  rfl

/-- The expansion of the sixteenth is the text of the length in rem. -/
theorem expansion_four_eq_toText {px : Int} (h : Pixels.InRange px) :
    expansion px 4 = (remDouble px).toText := by
  rw [Binary.toText, Binary.toChars_of_isExactly (isExactly_remDouble h) (natAbs_le h) (by decide)]
  rfl

/-- **What it stands for is the text of the length in rem.** -/
theorem rem_eq_toText {px : Int} (h : Pixels.InRange px) :
    rem px = (remDouble px).toText ++ "rem" := by
  rw [← expansion_four_eq_toText h]
  rfl

/-- The characters of an expansion are the decimal expansion of the quotient. -/
theorem isExpansion_expansion (n : Int) (k : Nat) :
    Decimal.IsExpansion (n / (2 : ℚ) ^ k) (expansion n k).toList := by
  rw [expansion, String.toList_ofList, ← value_halved_natAbs]
  apply Decimal.isExpansion_positional (Decimal.isReduced_normalize _)
  have hsign : (n : ℚ) / 2 ^ k < 0 ↔ n < 0 := by
    rw [div_lt_iff₀ (by positivity), zero_mul]
    exact Int.cast_lt_zero
  rw [← Decimal.halved, value_halved_natAbs, decide_eq_decide.2 hsign, Decimal.halved,
    Decimal.normalize_negative]

/-! ## Resolving -/

/-- Resolving a length gives its token, and defines it if the fixed scale lacks it. -/
theorem resolve_run (px : Int) (t : Tokens) :
    (Resolver.resolve (.spacing px)).run.run t = (.ok (token px), t.register (.spacing px)) :=
  Resolver.run_resolve (.spacing px) t

/-- A length that the fixed scale lacks is defined under its token. -/
theorem definition?_of_builtin?_eq_none {px : Int} (h : builtin? px = none) :
    definition? px = some (token px, rem px) := by
  rw [definition?, token, h]
  rfl

/-- The entry of a length that the fixed scale lacks is there after its request. -/
theorem get?_register {px : Int} (h : builtin? px = none) (t : Tokens) :
    (t.register (.spacing px)).spacing.get? (token px) =
      (t.spacing.get? (token px)).or (some (rem px)) :=
  Tokens.get?_register_of_definition? (q := .spacing px) (definition?_of_builtin?_eq_none h) t

/-- In a session the token of a length has no other entry. -/
theorem get?_register_runAll {px : Int} (h : builtin? px = none) (operations : List Operation) :
    ((Operation.runAll operations).register (.spacing px)).spacing.get? (token px) =
      some (rem px) := by
  refine Operation.get?_register_of_unique (q := .spacing px) (definition?_of_builtin?_eq_none h) ?_
    operations
  intro other hfamily value' hother
  obtain ⟨px', rfl⟩ := TokenRequest.family_eq_spacing_iff.1 hfamily
  obtain ⟨hbuiltin, hname, rfl⟩ := definition?_eq_some_iff.1 hother
  have htoken : token px' = expansion px' 2 := by
    rw [token, hbuiltin]
    rfl
  rw [token_injective (hname.trans htoken.symm)]
  rfl

/-- **Spacing tokens are unambiguous.**  Whatever tokens there are, a length is resolved to the decimal
expansion of its pixels over four, and one pixel to the word `px`; no other length is resolved to the
same token, with these tokens or others.  A length on the fixed scale defines nothing.  The token of any
other one is the text of the double for the length in steps of the scale, and stands for the text of
the double for the length in rem, which is the decimal expansion of the pixels over sixteen, if the name
is free; in a session it stands for nothing else. -/
theorem resolve_unambiguous {px : Int} (hpx : Pixels.InRange px) (t : Tokens) :
    ∃ name after, (Resolver.resolve (.spacing px)).run.run t = (.ok name, after) ∧
      (if px = 1 then name = "px" else Decimal.IsExpansion (px / 4) name.toList) ∧
      (∀ other t', ((Resolver.resolve (.spacing other)).run.run t').1 = .ok name → other = px) ∧
      match builtin? px with
      | some builtin => name = builtin ∧ after = t
      | none =>
          (stepsDouble px).value = px / 4 ∧ name = (stepsDouble px).toText ∧
          (remDouble px).value = px / 16 ∧
          Decimal.IsExpansion (px / 16) (remDouble px).toText.toList ∧
          after.spacing.get? name =
            (t.spacing.get? name).or (some ((remDouble px).toText ++ "rem")) ∧
          ∀ operations, t = Operation.runAll operations →
            after.spacing.get? name = some ((remDouble px).toText ++ "rem") := by
  have hfour : (2 : ℚ) ^ 2 = 4 := by norm_num
  have hsixteen : (2 : ℚ) ^ 4 = 16 := by norm_num
  have htoken := token_eq px
  refine ⟨token px, t.register (.spacing px), resolve_run px t, ?_, ?_, ?_⟩
  · split
    · rename_i hone
      rw [htoken, if_pos hone]
    · rename_i hone
      rw [htoken, if_neg hone, ← hfour]
      exact isExpansion_expansion px 2
  · intro other t' h
    rw [resolve_run] at h
    exact token_injective (Except.ok.inj h)
  · cases hbuiltin : builtin? px with
    | some builtin =>
        refine ⟨by rw [token, hbuiltin]; rfl, ?_⟩
        show { t with spacing := t.spacing.define (definition? px) } = t
        rw [definition?, hbuiltin]
        rfl
    | none =>
        refine ⟨?_, ?_, ?_, ?_, ?_, ?_⟩
        · rw [← hfour]
          exact value_of_isExactly (isExactly_stepsDouble hpx)
        · rw [token, hbuiltin]
          exact derived_eq_toText hpx
        · rw [← hsixteen]
          exact value_of_isExactly (isExactly_remDouble hpx)
        · rw [← expansion_four_eq_toText hpx, ← hsixteen]
          exact isExpansion_expansion px 4
        · rw [get?_register hbuiltin, rem_eq_toText hpx]
        · rintro operations rfl
          rw [get?_register_runAll hbuiltin, rem_eq_toText hpx]

/-- The least length is resolved to its quarter, which stands for its sixteenth in rem. -/
theorem resolve_unambiguous_least :
    Pixels.InRange Pixels.least ∧
      ∃ name after, (Resolver.resolve (.spacing Pixels.least)).run.run {} = (.ok name, after) ∧
        name = "-536870912" ∧ Decimal.IsExpansion ((Pixels.least : Int) / 4) name.toList ∧
        after.spacing.get? name = some "-134217728rem" := by
  have hrange : Pixels.InRange Pixels.least := by decide
  obtain ⟨name, after, hresolve, hname, -, hdoubles⟩ := resolve_unambiguous hrange {}
  have hrun := resolve_run Pixels.least {}
  rw [hresolve, Prod.mk.injEq] at hrun
  obtain ⟨hok, rfl⟩ := hrun
  obtain rfl := Except.ok.inj hok
  refine ⟨hrange, _, _, hresolve, by decide +kernel, ?_, by decide +kernel⟩
  rwa [if_neg (by decide)] at hname

end Spacing

end CanvasExport
