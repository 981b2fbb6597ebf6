import CanvasExport.Export.Component
import CanvasExport.Proofs.Decimal
import CanvasExport.Proofs.NumberText
import CanvasExport.Proofs.Pieces
/-!
# Spans as a language

A span is the word `span` and the decimal digits of a count, with zeros and a plus sign in front of the
digits at will and with blanks at will around the word and the digits (`IsSpan`).  The count has 32 bits
and is not zero.  Exactly these texts are read as spans, each as its count (`spanOfChars?_eq_some_iff`).
A component whose computed value is no span, or none at all, spans one track
(`Node.gridSpan_eq_iff`).
-/

namespace CanvasExport

open Text

/-! ## Digits with zeros in front -/

/-- The characters are the decimal digits of the natural, with zeros in front at will. -/
def IsDecimal (n : Nat) (cs : List Char) : Prop :=
  ∃ zeros, cs = List.replicate zeros '0' ++ Nat.toDigits 10 n

/-- A digit is the one of its value. -/
theorem toDigits_of_isDigit {c : Char} (h : c.isDigit = true) :
    Nat.toDigits 10 (c.toNat - 48) = [c] := by
  have hcode : 48 ≤ c.toNat ∧ c.toNat ≤ 57 := Char.isDigit_iff_toNat.1 h
  have hlt : c.toNat - 48 < 10 := by omega
  rw [Nat.toDigits_of_lt_base hlt]
  congr 1
  apply Char.toNat_inj.1
  rw [Nat.toNat_digitChar_of_lt_ten hlt]
  omega

/-- One more digit behind others makes the number ten times as great and adds its value. -/
theorem isDecimal_append_digit {n : Nat} {cs : List Char} (h : IsDecimal n cs) {c : Char}
    (hc : c.isDigit = true) : IsDecimal (10 * n + (c.toNat - 48)) (cs ++ [c]) := by
  have hcode : 48 ≤ c.toNat ∧ c.toNat ≤ 57 := Char.isDigit_iff_toNat.1 hc
  obtain ⟨zeros, rfl⟩ := h
  rcases Nat.eq_zero_or_pos n with rfl | hn
  · -- the zero that stands for the number so far is one more in front
    refine ⟨zeros + 1, ?_⟩
    rw [Nat.toDigits_zero, Nat.mul_zero, Nat.zero_add, toDigits_of_isDigit hc,
      List.replicate_succ']
  · refine ⟨zeros, ?_⟩
    have hlt : c.toNat - 48 < 10 := by omega
    rw [← Nat.toDigits_append_toDigits (by decide) hn hlt, toDigits_of_isDigit hc,
      List.append_assoc]

/-- **The digits of a natural with zeros in front are all the digits that are read as it.** -/
theorem isDecimal_iff {n : Nat} {cs : List Char} :
    IsDecimal n cs ↔
      cs ≠ [] ∧ (∀ c ∈ cs, c.isDigit = true) ∧ Nat.ofDigitChars 10 cs 0 = n := by
  constructor
  · rintro ⟨zeros, rfl⟩
    refine ⟨List.append_ne_nil_of_right_ne_nil _ (Decimal.toDigits_ne_nil n), ?_, ?_⟩
    · intro c hc
      rcases List.mem_append.1 hc with hc | hc
      · rw [List.eq_of_mem_replicate hc]
        decide
      · exact Decimal.isDigit_toDigits n c hc
    · rw [Nat.ofDigitChars_append, Nat.ofDigitChars_replicate_zero, Nat.mul_zero,
        Nat.ofDigitChars_ten_toDigits]
  · rintro ⟨hne, hdigits, rfl⟩
    -- a digit more at the end, as the digits are read
    induction cs using List.reverseRecOn with
    | nil => exact absurd rfl hne
    | append_singleton front c ih =>
        obtain ⟨hfront, hc⟩ := List.forall_mem_append.1 hdigits
        have hdigit : c.isDigit = true := hc c List.mem_cons_self
        have hread : Nat.ofDigitChars 10 (front ++ [c]) 0 =
            10 * Nat.ofDigitChars 10 front 0 + (c.toNat - 48) := by
          rw [Nat.ofDigitChars_append, Nat.ofDigitChars_cons, Nat.ofDigitChars_nil]
          rfl
        rw [hread]
        by_cases hempty : front = []
        · subst hempty
          refine ⟨0, ?_⟩
          rw [Nat.ofDigitChars_nil, Nat.mul_zero, Nat.zero_add, toDigits_of_isDigit hdigit]
          rfl
        · exact isDecimal_append_digit (ih hempty hfront) hdigit

/-! ## Naturals of 32 bits -/

/-- The least natural that has no place in 32 bits. -/
def wordSize : Nat := 0x100000000

/-- Characters are refused where there are none, or one of them is no digit. -/
theorem refused_eq_false_iff {cs : List Char} :
    (cs.isEmpty || !cs.all Char.isDigit) = false ↔ cs ≠ [] ∧ ∀ c ∈ cs, c.isDigit = true := by
  simp

/-- Digits are read without their sign, where it is a plus, and if the number has 32 bits. -/
theorem natural?_digits {sign : List Char} (hsign : sign = [] ∨ sign = ['+']) {n : Nat}
    {digits : List Char} (h : IsDecimal n digits) :
    natural? (sign ++ digits) = if n < wordSize then some n else none := by
  obtain ⟨hne, hdigits, hvalue⟩ := isDecimal_iff.1 h
  have hrest : (after? ['+'] (sign ++ digits)).getD (sign ++ digits) = digits := by
    rcases hsign with rfl | rfl
    · -- the first digit is no plus sign
      have hnone : after? ['+'] digits = none := by
        refine Option.eq_none_iff_forall_ne_some.2 fun rest hrest => ?_
        have hplus := hdigits '+' (by rw [after?_eq_some_iff.1 hrest]; exact List.mem_cons_self)
        exact absurd hplus (by decide)
      rw [List.nil_append, hnone, Option.getD_none]
    · rw [after?_eq_some_iff.2 rfl, Option.getD_some]
  unfold natural?
  dsimp only
  rw [hrest, refused_eq_false_iff.2 ⟨hne, hdigits⟩, hvalue]
  rfl

/-- A text is read as a natural where it is its digits, with a plus sign or none. -/
theorem natural?_eq_some_iff {cs : List Char} {n : Nat} :
    natural? cs = some n ↔ n < wordSize ∧ ∃ sign digits, (sign = [] ∨ sign = ['+']) ∧
      IsDecimal n digits ∧ cs = sign ++ digits := by
  constructor
  · intro h
    -- the digits are what follows a plus sign, or all of the text
    obtain ⟨sign, digits, hsign, hdigits, hcs⟩ : ∃ sign digits, (sign = [] ∨ sign = ['+']) ∧
        (after? ['+'] cs).getD cs = digits ∧ cs = sign ++ digits := by
      cases hplus : after? ['+'] cs with
      | none => exact ⟨[], cs, .inl rfl, rfl, rfl⟩
      | some rest => exact ⟨['+'], rest, .inr rfl, rfl, after?_eq_some_iff.1 hplus⟩
    unfold natural? at h
    dsimp only at h
    rw [hdigits] at h
    split at h
    · cases h
    · rename_i hread
      obtain ⟨hne, hall⟩ := refused_eq_false_iff.1 (Bool.eq_false_of_not_eq_true hread)
      split at h
      · rename_i hlt
        obtain rfl := Option.some.inj h
        exact ⟨hlt, sign, digits, hsign, isDecimal_iff.2 ⟨hne, hall, rfl⟩, hcs⟩
      · cases h
  · rintro ⟨hlt, sign, digits, hsign, hdecimal, rfl⟩
    rw [natural?_digits hsign hdecimal, if_pos hlt]

/-- Behind a minus sign nothing is read. -/
theorem natural?_minus (cs : List Char) : natural? ('-' :: cs) = none := by
  refine Option.eq_none_iff_forall_ne_some.2 fun n h => ?_
  obtain ⟨-, sign, digits, hsign, hdecimal, hcs⟩ := natural?_eq_some_iff.1 h
  obtain ⟨hne, hdigits, -⟩ := isDecimal_iff.1 hdecimal
  obtain ⟨first, rest, rfl⟩ := List.exists_cons_of_ne_nil hne
  rcases hsign with rfl | rfl
  · obtain rfl : '-' = first := (List.cons.inj hcs).1
    exact absurd (hdigits '-' List.mem_cons_self) (by decide)
  · exact absurd (List.cons.inj hcs).1 (by decide)

/-! ## The language -/

/-- The characters are the word `span`, a sign or none and the digits of the count, with blanks at will
around the word and the digits. -/
def NotesSpan (sign : List Char) (count : Nat) (cs : List Char) : Prop :=
  ∃ before gap digits after, AllBlank before ∧ AllBlank gap ∧ AllBlank after ∧
    IsDecimal count digits ∧ cs = before ++ ("span".toList ++ (gap ++ (sign ++ digits)) ++ after)

/-- The characters are a span of so many tracks: at least one, and as many as 32 bits count. -/
def IsSpan (count : Nat) (cs : List Char) : Prop :=
  0 < count ∧ count < wordSize ∧ ∃ sign, (sign = [] ∨ sign = ['+']) ∧ NotesSpan sign count cs

/-- Behind the word the sign and the digits are found. -/
theorem spanOfChars?_of_notesSpan {sign : List Char} (hsign : sign = [] ∨ sign = ['+'] ∨ sign = ['-'])
    {count : Nat} {cs : List Char} (h : NotesSpan sign count cs) :
    ∃ digits, IsDecimal count digits ∧
      spanOfChars? cs = (natural? (sign ++ digits)).filter (0 < ·) := by
  obtain ⟨before, gap, digits, after, hbefore, hgap, hafter, hdecimal, rfl⟩ := h
  obtain ⟨hne, hdigits, -⟩ := isDecimal_iff.1 hdecimal
  have hlast : ∀ c ∈ (sign ++ digits).getLast?, isBlank c = false := by
    intro c hc
    rw [List.getLast?_append_of_ne_nil _ hne] at hc
    exact isBlank_of_isDigit (hdigits c (List.mem_of_mem_getLast? hc))
  have hhead : ∀ c ∈ (sign ++ digits).head?, isBlank c = false := by
    intro c hc
    rcases List.mem_append.1 (List.mem_of_mem_head? hc) with hc | hc
    · rcases hsign with rfl | rfl | rfl
      · cases hc
      · rw [List.mem_singleton.1 hc]
        decide
      · rw [List.mem_singleton.1 hc]
        decide
    · exact isBlank_of_isDigit (hdigits c hc)
  have houter : trim (before ++ ("span".toList ++ (gap ++ (sign ++ digits)) ++ after)) =
      "span".toList ++ (gap ++ (sign ++ digits)) := by
    apply trim_between hbefore hafter
    · intro c hc
      obtain rfl : 's' = c := Option.some.inj hc
      decide
    · intro c hc
      have hne' : sign ++ digits ≠ [] := List.append_ne_nil_of_right_ne_nil sign hne
      rw [List.getLast?_append_of_ne_nil _ (List.append_ne_nil_of_right_ne_nil gap hne'),
        List.getLast?_append_of_ne_nil _ hne'] at hc
      exact hlast c hc
  have hinner : trim (gap ++ (sign ++ digits)) = sign ++ digits := by
    have hbetween := trim_between hgap (List.forall_mem_nil _) hhead hlast
    rwa [List.append_nil] at hbetween
  refine ⟨digits, hdecimal, ?_⟩
  rw [spanOfChars?, houter, after?_eq_some_iff.2 rfl, Option.bind_some, hinner]

/-- **The texts that are read as spans are the spans**, each with its own count. -/
theorem spanOfChars?_eq_some_iff {cs : List Char} {count : Nat} :
    spanOfChars? cs = some count ↔ IsSpan count cs := by
  constructor
  · intro h
    obtain ⟨rest, hrest, h⟩ := Option.bind_eq_some_iff.1 h
    obtain ⟨hread, hpos⟩ := Option.filter_eq_some_iff.1 h
    obtain ⟨hlt, sign, digits, hsign, hdecimal, htrim⟩ := natural?_eq_some_iff.1 hread
    obtain ⟨before, after, hbefore, hafter, houter⟩ := exists_blanks_around cs
    obtain ⟨gap, behind, hgap, hbehind, hinner⟩ := exists_blanks_around rest
    refine ⟨of_decide_eq_true hpos, hlt, sign, hsign, before, gap, digits, behind ++ after, hbefore,
      hgap, List.forall_mem_append.2 ⟨hbehind, hafter⟩, hdecimal, ?_⟩
    calc cs = before ++ (trim cs ++ after) := houter
      _ = before ++ ("span".toList ++ rest ++ after) := by rw [after?_eq_some_iff.1 hrest]
      _ = before ++ ("span".toList ++ (gap ++ (trim rest ++ behind)) ++ after) := by rw [← hinner]
      _ = before ++ ("span".toList ++ (gap ++ (sign ++ digits)) ++ (behind ++ after)) := by
          rw [htrim]
          simp only [List.append_assoc]
  · rintro ⟨hpos, hlt, sign, hsign, hnotes⟩
    have hsign' : sign = [] ∨ sign = ['+'] ∨ sign = ['-'] := by tauto
    obtain ⟨digits, hdecimal, hread⟩ := spanOfChars?_of_notesSpan hsign' hnotes
    rw [hread, natural?_digits hsign hdecimal, if_pos hlt, Option.filter_some,
      if_pos (decide_eq_true hpos)]

/-- A span of no tracks, of more than 32 bits count, or behind a minus sign is not read. -/
theorem spanOfChars?_eq_none {sign : List Char} {count : Nat} {cs : List Char}
    (h : NotesSpan sign count cs)
    (hout : sign = ['-'] ∨ (sign = [] ∨ sign = ['+']) ∧ (count = 0 ∨ wordSize ≤ count)) :
    spanOfChars? cs = none := by
  have hsign : sign = [] ∨ sign = ['+'] ∨ sign = ['-'] := by tauto
  obtain ⟨digits, hdecimal, hread⟩ := spanOfChars?_of_notesSpan hsign h
  rw [hread]
  rcases hout with rfl | ⟨hplus, rfl | hlarge⟩
  · exact congrArg (Option.filter _) (natural?_minus digits)
  · rw [natural?_digits hplus hdecimal, if_pos (by decide)]
    rfl
  · rw [natural?_digits hplus hdecimal, if_neg (Nat.not_lt.2 hlarge)]
    rfl

/-! ## Computed values -/

/-- How many tracks a computed value stands for: a text that is a span for its count, and any other
text, a bare number or no value for one. -/
inductive SpansTracks : Option StyleValue → Nat → Prop
  | span {s : String} {count : Nat} (h : IsSpan count s.toList) : SpansTracks (some (.text s)) count
  | other {s : String} (h : ∀ count, ¬ IsSpan count s.toList) : SpansTracks (some (.text s)) 1
  | number (x : Double) : SpansTracks (some (.number x)) 1
  | absent : SpansTracks none 1

/-- There is at least one track, and no more than 32 bits count. -/
theorem SpansTracks.bounds {value : Option StyleValue} {count : Nat} (h : SpansTracks value count) :
    0 < count ∧ count < wordSize := by
  cases h with
  | span h => exact ⟨h.1, h.2.1⟩
  | other h => decide
  | number x => decide
  | absent => decide

/-- It stands for one number of tracks alone. -/
theorem SpansTracks.unique {value : Option StyleValue} {count count' : Nat}
    (h : SpansTracks value count) (h' : SpansTracks value count') : count = count' := by
  cases h with
  | span h =>
      cases h' with
      | span h' =>
          have hread := spanOfChars?_eq_some_iff.2 h
          rw [spanOfChars?_eq_some_iff.2 h'] at hread
          exact (Option.some.inj hread).symm
      | other h' => exact absurd h (h' count)
  | other h =>
      cases h' with
      | span h' => exact absurd h' (h count')
      | other h' => rfl
  | number x => cases h'; rfl
  | absent => cases h'; rfl

/-- The text of a number is no span. -/
theorem spanOfChars?_toText (x : Double) : spanOfChars? x.toText.toList = none := by
  refine Option.eq_none_iff_forall_ne_some.2 fun count h => ?_
  obtain ⟨-, -, sign, -, before, gap, digits, after, -, -, -, -, hcs⟩ := spanOfChars?_eq_some_iff.1 h
  rw [Binary.toText, String.toList_ofList] at hcs
  have hmem : 's' ∈ x.toChars := by
    rw [hcs]
    simp
  exact Binary.notMem_toChars (by decide) (by decide) hmem

namespace Node

/-- A node spans the tracks that its computed value stands for. -/
theorem spansTracks_gridSpan (n : Node) (property : String) :
    SpansTracks (n.computed? property) (n.gridSpan property) := by
  unfold gridSpan computedText?
  cases n.computed? property with
  | none => exact .absent
  | some value =>
      cases value with
      | number x =>
          have hnone : (Option.map StyleValue.toText (some (.number x))).bind
              (fun text => spanOfChars? text.toList) = none := spanOfChars?_toText x
          rw [hnone]
          exact .number x
      | text s =>
          show SpansTracks (some (.text s)) ((spanOfChars? s.toList).getD 1)
          cases hread : spanOfChars? s.toList with
          | none =>
              refine .other fun count h => ?_
              rw [spanOfChars?_eq_some_iff.2 h] at hread
              cases hread
          | some count => exact .span (spanOfChars?_eq_some_iff.1 hread)

/-- **How many tracks a component spans is a matter of its computed value**: the count of a span, and one
where the value is no span.  So zero tracks, a negative number of them and more than 32 bits count are
one track, and the classes of a component in a grid carry a positive number of 32 bits, whatever its
computed values are. -/
theorem gridSpan_eq_iff (n : Node) :
    (∀ property count, n.gridSpan property = count ↔ SpansTracks (n.computed? property) count) ∧
    (∀ property s sign count, n.computed? property = some (.text s) →
      NotesSpan sign count s.toList →
      sign = ['-'] ∨ (sign = [] ∨ sign = ['+']) ∧ (count = 0 ∨ wordSize ≤ count) →
      n.gridSpan property = 1) ∧
    ∀ d : Descriptor, ∃ c columns rows, (Component.ofDescribed d .grid n).outcome = .ok c ∧
      SpansTracks (n.computed? "grid-column-end") columns ∧ 0 < columns ∧ columns < wordSize ∧
      SpansTracks (n.computed? "grid-row-end") rows ∧ 0 < rows ∧ rows < wordSize ∧
      c.data.classes = ["w-full", "h-full", "col-start-" ++ n.gridStart "grid-column-start",
        "col-span-" ++ toString columns, "row-start-" ++ n.gridStart "grid-row-start",
        "row-span-" ++ toString rows] := by
  refine ⟨?_, ?_, ?_⟩
  · intro property count
    have hspans := n.spansTracks_gridSpan property
    constructor
    · rintro rfl
      exact hspans
    · intro h
      exact hspans.unique h
  · intro property s sign count hvalue hnotes hout
    apply (n.spansTracks_gridSpan property).unique
    rw [hvalue]
    refine .other fun count' h => ?_
    have hread := spanOfChars?_eq_some_iff.2 h
    rw [spanOfChars?_eq_none hnotes hout] at hread
    cases hread
  · intro d
    have hcolumns := n.spansTracks_gridSpan "grid-column-end"
    have hrows := n.spansTracks_gridSpan "grid-row-end"
    exact ⟨_, _, _, rfl, hcolumns, hcolumns.bounds.1, hcolumns.bounds.2, hrows, hrows.bounds.1,
      hrows.bounds.2, rfl⟩

/-- A component with a span in other words, and one with more tracks than 32 bits count. -/
def spanSample : Node :=
  (Node.component "cell" "launch-button").withComputed "grid-column-end" (.text "\u2003span+007 ")
    |>.withComputed "grid-row-end" (.text "span 4294967297")

/-- It spans seven columns, and one row. -/
theorem gridSpan_eq_iff_sample :
    IsSpan 7 "\u2003span+007 ".toList ∧ NotesSpan [] 4294967297 "span 4294967297".toList ∧
      spanSample.gridSpan "grid-column-end" = 7 ∧ spanSample.gridSpan "grid-row-end" = 1 := by
  have hcolumns : IsSpan 7 "\u2003span+007 ".toList :=
    ⟨by decide, by decide, ['+'], .inr rfl, ['\u2003'], [], "007".toList, [' '], by decide,
      by decide, by decide, ⟨2, by decide +kernel⟩, by decide⟩
  have hrows : NotesSpan [] 4294967297 "span 4294967297".toList :=
    ⟨[], [' '], "4294967297".toList, [], by decide, by decide, by decide, ⟨0, by decide +kernel⟩,
      by decide⟩
  obtain ⟨hspans, hother, -⟩ := spanSample.gridSpan_eq_iff
  refine ⟨hcolumns, hrows, (hspans _ _).2 (.span hcolumns), ?_⟩
  exact hother _ _ [] _ rfl hrows (.inr ⟨.inl rfl, .inr (by decide)⟩)

end Node

end CanvasExport
