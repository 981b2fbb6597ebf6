import CanvasExport.Color
import CanvasExport.Proofs.Decimal
import CanvasExport.Proofs.Rounding
import CanvasExport.Style
/-!
# The plain text of a number

The text of a number is read back as the number, be it finite or not (`Binary.ofChars?_toChars`); it
has digits, a sign, a point and the letters of the words for what is not finite, and no other
character (`Binary.mem_toChars`).  So its text is a length of as many pixels, without the unit
(`StyleValue.pixelsOfChars?_toChars`) or with it (`StyleValue.pixelsOfChars?_unit`), and notes no color
(`Rgba.parse?_toText`).
-/

namespace CanvasExport

namespace Binary

variable {f : Format}

/-! ## Reading back -/

/-- **The text of a number is read as the number.** -/
theorem ofChars?_toChars (x : Double) : ofChars? .double x.toChars = some x := by
  cases x with
  | nan => rfl
  | infinite negative => cases negative <;> rfl
  | finite negative m e h =>
      set d := shortest .up negative m e h
      have hnegative : d.written.negative = d.negative := by
        unfold Decimal.written
        split <;> rfl
      have hvalue : d.written.value = d.value := d.value_written
      have hread : ofDecimal .double d.written = .finite negative m e h := by
        rw [ofDecimal_congr Format.spans_double hnegative hvalue,
          ofDecimal_shortest Format.spans_double]
      rw [toChars, ofChars?, Decimal.ofChars?_positional]
      exact congrArg some hread

/-! ## Characters -/

/-- The characters of a decimal are digits, the minus sign and the point. -/
theorem mem_positional {d : Decimal} {c : Char} (hc : c ∈ d.positional) :
    c.isDigit = true ∨ c ∈ ['-', '.'] := by
  have hsign : c ∈ Decimal.signChars d.negative → c = '-' := by
    unfold Decimal.signChars
    split <;> simp
  unfold Decimal.positional at hc
  rcases List.mem_append.1 hc with hc | hc
  · exact .inr (by simp [hsign hc])
  · split at hc
    · rcases List.mem_append.1 hc with hc | hc
      · exact .inl (Decimal.isDigit_toDigits _ c hc)
      · rw [List.eq_of_mem_replicate hc]
        exact .inl rfl
    · rcases List.mem_append.1 hc with hc | hc
      · exact .inl (Decimal.isDigit_toDigits _ c hc)
      · rcases List.mem_cons.1 hc with rfl | hc
        · exact .inr (by decide)
        · exact .inl (Decimal.isDigit_of_mem_padded hc)

/-- The minus sign, the point, and the letters of `NaN` and `inf`. -/
def marks : List Char := ['-', '.', 'N', 'a', 'i', 'n', 'f']

/-- The characters of a number are digits and marks. -/
theorem mem_toChars {x : Binary f} {c : Char} (hc : c ∈ x.toChars) :
    c.isDigit = true ∨ c ∈ marks := by
  cases x with
  | nan =>
      have hword : "NaN".toList.all (marks.contains ·) = true := by decide
      exact .inr (List.contains_iff_mem.1 (List.all_eq_true.1 hword c hc))
  | infinite negative =>
      have hword : (Decimal.signChars negative ++ "inf".toList).all (marks.contains ·) = true := by
        cases negative <;> decide
      exact .inr (List.contains_iff_mem.1 (List.all_eq_true.1 hword c hc))
  | finite negative m e h =>
      rcases mem_positional hc with hdigit | hmark
      · exact .inl hdigit
      · exact .inr (List.mem_append_left ['N', 'a', 'i', 'n', 'f'] hmark)

/-- None of them is blank. -/
theorem isBlank_of_mem_toChars {x : Binary f} {c : Char} (hc : c ∈ x.toChars) :
    Text.isBlank c = false := by
  have hmarks : marks.all (!Text.isBlank ·) = true := by decide
  rcases mem_toChars hc with hdigit | hmark
  · exact Text.isBlank_of_isDigit hdigit
  · simpa using List.all_eq_true.1 hmarks c hmark

theorem trim_toChars (x : Binary f) : Text.trim x.toChars = x.toChars :=
  Text.trim_eq_self fun _ hc => isBlank_of_mem_toChars hc

/-- What is neither a digit nor a mark does not occur. -/
theorem notMem_toChars {x : Binary f} {c : Char} (hdigit : c.isDigit = false)
    (hmark : c ∉ marks) : c ∉ x.toChars := by
  intro hc
  rcases mem_toChars hc with h | h
  · rw [hdigit] at h
    cases h
  · exact hmark h

end Binary

/-! ## Lengths -/

namespace StyleValue

/-- What the text of a number gives is its length, if it is finite. -/
theorem filter_ofChars?_toChars (x : Double) :
    (Binary.ofChars? .double (Text.trim x.toChars)).filter Binary.isFinite = pixels? (.number x) := by
  rw [Binary.trim_toChars, Binary.ofChars?_toChars, Option.filter_some]
  rfl

/-- The text of a number is as long as the number. -/
theorem pixelsOfChars?_toChars (x : Double) : pixelsOfChars? x.toChars = pixels? (.number x) := by
  have hunit : Text.before? ['p', 'x'] x.toChars = none := by
    refine Option.eq_none_iff_forall_ne_some.2 fun rest hrest => ?_
    have hx : 'x' ∈ x.toChars := by
      rw [Text.before?_eq_some_iff.1 hrest]
      simp
    exact Binary.notMem_toChars (by decide) (by decide) hx
  rw [pixelsOfChars?, Binary.trim_toChars, hunit, Option.getD_none, filter_ofChars?_toChars]

/-- So it is with the unit behind it and blanks around both. -/
theorem pixelsOfChars?_unit {before after : List Char}
    (hbefore : ∀ c ∈ before, Text.isBlank c = true) (hafter : ∀ c ∈ after, Text.isBlank c = true)
    (x : Double) :
    pixelsOfChars? (before ++ (x.toChars ++ ['p', 'x'] ++ after)) = pixels? (.number x) := by
  have hunitBlank : ['p', 'x'].all (!Text.isBlank ·) = true := by decide
  have hblank : ∀ c ∈ x.toChars ++ ['p', 'x'], Text.isBlank c = false := by
    intro c hc
    rcases List.mem_append.1 hc with hc | hc
    · exact Binary.isBlank_of_mem_toChars hc
    · simpa using List.all_eq_true.1 hunitBlank c hc
  have htrim : Text.trim (before ++ (x.toChars ++ ['p', 'x'] ++ after)) = x.toChars ++ ['p', 'x'] :=
    Text.trim_between hbefore hafter (fun c hc => hblank c (List.mem_of_mem_head? hc))
      fun c hc => hblank c (List.mem_of_mem_getLast? hc)
  have hunit : Text.before? ['p', 'x'] (x.toChars ++ ['p', 'x']) = some x.toChars :=
    Text.before?_eq_some_iff.2 rfl
  rw [pixelsOfChars?, htrim, hunit, Option.getD_some, filter_ofChars?_toChars]

end StyleValue

/-! ## Colors -/

/-- In lower case the characters of a number are digits and marks as well. -/
theorem Binary.mem_lower_toChars {f : Format} {x : Binary f} {c : Char}
    (hc : c ∈ Text.lower x.toChars) : c.isDigit = true ∨ c ∈ marks := by
  have hlower : marks.all (marks.contains ·.toLower) = true := by decide
  obtain ⟨c', hc', rfl⟩ := List.mem_map.1 hc
  rcases mem_toChars hc' with hdigit | hmark
  · rw [Text.toLower_of_isDigit hdigit]
    exact .inl hdigit
  · exact .inr (List.contains_iff_mem.1 (List.all_eq_true.1 hlower c' hmark))

/-- **The text of a number notes no color.** -/
theorem Rgba.parse?_toText (x : Double) : Rgba.parse? x.toText = none := by
  -- every notation begins with a character that no number has
  have hbegin (first : Char) (rest : List Char) (hdigit : first.isDigit = false)
      (hmark : first ∉ Binary.marks) :
      Text.after? (first :: rest) (Text.lower x.toChars) = none := by
    refine Option.eq_none_iff_forall_ne_some.2 fun behind hbehind => ?_
    have hfirst : first ∈ Text.lower x.toChars := by
      rw [Text.after?_eq_some_iff.1 hbehind]
      exact List.mem_cons_self
    rcases Binary.mem_lower_toChars hfirst with h | h
    · rw [hdigit] at h
      cases h
    · exact hmark h
  have hword : Text.lower x.toChars ≠ "transparent".toList := by
    intro heq
    have hnone : Text.after? "transparent".toList (Text.lower x.toChars) = none :=
      hbegin 't' "ransparent".toList (by decide) (by decide)
    rw [Text.after?_eq_some_iff.2 (heq.trans (List.append_nil _).symm)] at hnone
    cases hnone
  have hhash := hbegin '#' [] (by decide) (by decide)
  have hrgba : Text.after? "rgba(".toList (Text.lower x.toChars) = none :=
    hbegin 'r' "gba(".toList (by decide) (by decide)
  have hrgb : Text.after? "rgb(".toList (Text.lower x.toChars) = none :=
    hbegin 'r' "gb(".toList (by decide) (by decide)
  rw [parse?, Binary.toText, String.toList_ofList, Binary.trim_toChars, ofChars?, if_neg hword, hhash]
  dsimp only
  rw [hrgba, hrgb]
  rfl

end CanvasExport
