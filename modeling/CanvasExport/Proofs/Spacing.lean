import CanvasExport.Proofs.Decimal
import CanvasExport.Proofs.Dict
import CanvasExport.Token.Spacing
/-!
# Spacing tokens as numbers

The expansion of an integer over a power of two reads back as the quotient (`expansion_reads`), so
different integers have different expansions (`expansion_injective`).  The tokens of the fixed scale are
such expansions too, but for one (`token_eq`), so different lengths have different tokens
(`token_injective`).
-/

namespace CanvasExport.Spacing

-- powers of naturals are the core library's
attribute [local instance (2000)] instPowNat

/-- An expansion is that of the quotient. -/
theorem value_halved_natAbs (n : Int) (k : Nat) :
    (Decimal.halved (n < 0) n.natAbs k).value = n / (2 : ℚ) ^ k := by
  have hsign : (if (decide (n < 0) : Bool) then (-1 : ℚ) else 1) * n.natAbs = n := by
    rw [← Int.cast_natCast (R := ℚ) n.natAbs]
    by_cases h : n < 0
    · have habs : (n.natAbs : Int) = -n := by omega
      rw [habs]
      simp [h]
    · have habs : (n.natAbs : Int) = n := by omega
      rw [habs]
      simp [h]
  rw [Decimal.value_halved, hsign]

/-- An expansion reads back as the quotient that it expands. -/
theorem expansion_reads (n : Int) (k : Nat) :
    ∃ d, Decimal.ofChars? (expansion n k).toList = some d ∧ d.value = n / (2 : ℚ) ^ k := by
  refine ⟨(Decimal.halved (n < 0) n.natAbs k).written, ?_, ?_⟩
  · rw [expansion, String.toList_ofList, Decimal.ofChars?_positional]
  · rw [Decimal.value_written, value_halved_natAbs]

/-- Different integers have different expansions. -/
theorem expansion_injective (k : Nat) {m n : Int} (h : expansion m k = expansion n k) : m = n := by
  obtain ⟨d, hd, hm⟩ := expansion_reads m k
  obtain ⟨d', hd', hn⟩ := expansion_reads n k
  rw [h, hd'] at hd
  have hsame : d' = d := Option.some.inj hd
  rw [← hsame, hn] at hm
  have hpos : (2 : ℚ) ^ k ≠ 0 := pow_ne_zero k (by norm_num)
  have hcast : (n : ℚ) = m := (div_left_inj' hpos).1 hm
  exact_mod_cast hcast.symm

/-! ## The fixed scale -/

/-- The words of the fixed scale are the decimals of its numbers, except for `px`. -/
theorem eq_of_mem_scale {px : Int} {name : String} (h : (px, name) ∈ scale) :
    name = if px = 1 then "px" else expansion px 2 := by
  have hall : ∀ e ∈ scale, e.2 = if e.1 = 1 then "px" else expansion e.1 2 := by decide +kernel
  exact hall (px, name) h

/-- One pixel has a word, and any other token is the quarter of the length. -/
theorem token_eq (px : Int) : token px = if px = 1 then "px" else expansion px 2 := by
  unfold token
  cases hbuiltin : builtin? px with
  | some name => exact eq_of_mem_scale (Dict.mem_of_lookup_eq_some hbuiltin)
  | none =>
      have hne : px ≠ 1 := by
        rintro rfl
        cases hbuiltin
      rw [if_neg hne]
      rfl

/-- A word is no decimal. -/
theorem expansion_ne_px (n : Int) (k : Nat) : expansion n k ≠ "px" := by
  intro h
  obtain ⟨d, hd, -⟩ := expansion_reads n k
  rw [h] at hd
  cases hd

/-- **Different lengths have different tokens**, on the fixed scale or not. -/
theorem token_injective {a b : Int} (h : token a = token b) : a = b := by
  rw [token_eq, token_eq] at h
  split at h
  · rename_i ha
    split at h
    · rename_i hb
      rw [ha, hb]
    · exact absurd h.symm (expansion_ne_px b 2)
  · split at h
    · exact absurd h (expansion_ne_px a 2)
    · exact expansion_injective 2 h

end CanvasExport.Spacing
