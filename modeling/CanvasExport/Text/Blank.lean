/-!
# Blanks, words and parts of a text

The blanks are the characters with the Unicode property `White_Space`.  Texts are lists of
characters here: `trim` takes the blanks off both ends, `words` are the longest pieces without
blanks, and `parts` are the pieces between the occurrences of a separator.
-/

namespace CanvasExport.Text

/-! ## Blanks -/

/-- The characters with the Unicode property `White_Space`. -/
def isBlank (c : Char) : Bool :=
  let n := c.toNat
  (0x09 ≤ n && n ≤ 0x0D) || n = 0x20 || n = 0x85 || n = 0xA0 || n = 0x1680 ||
    (0x2000 ≤ n && n ≤ 0x200A) || n = 0x2028 || n = 0x2029 || n = 0x202F || n = 0x205F || n = 0x3000

/-- The text without the blanks at its start. -/
def trimStart (cs : List Char) : List Char := cs.dropWhile isBlank

/-- The text without the blanks at its end. -/
def trimEnd (cs : List Char) : List Char := (cs.reverse.dropWhile isBlank).reverse

/-- The text without the blanks at both ends. -/
def trim (cs : List Char) : List Char := trimEnd (trimStart cs)

/-- Blanks at the start are taken off. -/
theorem trimStart_append {blanks : List Char} (h : ∀ c ∈ blanks, isBlank c = true) (cs : List Char) :
    trimStart (blanks ++ cs) = trimStart cs := List.dropWhile_append_of_pos h

/-- Where no blank is at the start nothing is taken off. -/
theorem trimStart_eq_self {cs : List Char} (h : ∀ c ∈ cs.head?, isBlank c = false) :
    trimStart cs = cs := by
  cases cs with
  | nil => rfl
  | cons c cs =>
      have hc : ¬ isBlank c = true := by simp [h c rfl]
      exact List.dropWhile_cons_of_neg hc

/-- The end of a text is trimmed as the start of the text from behind. -/
theorem trimEnd_eq_reverse (cs : List Char) : trimEnd cs = (trimStart cs.reverse).reverse := rfl

/-- Blanks at the end are taken off. -/
theorem trimEnd_append {blanks : List Char} (h : ∀ c ∈ blanks, isBlank c = true) (cs : List Char) :
    trimEnd (cs ++ blanks) = trimEnd cs := by
  have hreverse : ∀ c ∈ blanks.reverse, isBlank c = true := fun c hc => h c (List.mem_reverse.1 hc)
  rw [trimEnd_eq_reverse, List.reverse_append, trimStart_append hreverse, ← trimEnd_eq_reverse]

/-- Where no blank is at the end nothing is taken off. -/
theorem trimEnd_eq_self {cs : List Char} (h : ∀ c ∈ cs.getLast?, isBlank c = false) :
    trimEnd cs = cs := by
  have hreverse : ∀ c ∈ cs.reverse.head?, isBlank c = false := by
    rw [List.head?_reverse]
    exact h
  rw [trimEnd_eq_reverse, trimStart_eq_self hreverse, List.reverse_reverse]

/-- **What stands between blanks is what trimming leaves**, if it has no blank at its ends. -/
theorem trim_between {before after cs : List Char} (hbefore : ∀ c ∈ before, isBlank c = true)
    (hafter : ∀ c ∈ after, isBlank c = true) (hhead : ∀ c ∈ cs.head?, isBlank c = false)
    (hlast : ∀ c ∈ cs.getLast?, isBlank c = false) : trim (before ++ (cs ++ after)) = cs := by
  rw [trim, trimStart_append hbefore]
  cases cs with
  | nil =>
      have hblank := trimStart_append hafter []
      rw [List.append_nil] at hblank
      rw [List.nil_append, hblank]
      rfl
  | cons c cs =>
      have hstart : trimStart (c :: cs ++ after) = c :: cs ++ after := trimStart_eq_self hhead
      rw [hstart, trimEnd_append hafter, trimEnd_eq_self hlast]

/-- A text without blanks stays as it is. -/
theorem trim_eq_self {cs : List Char} (h : ∀ c ∈ cs, isBlank c = false) : trim cs = cs := by
  have hbetween := @trim_between [] [] cs (List.forall_mem_nil _) (List.forall_mem_nil _)
    (fun c hc => h c (List.mem_of_mem_head? hc)) fun c hc => h c (List.mem_of_mem_getLast? hc)
  rwa [List.nil_append, List.append_nil] at hbetween

/-- Digits are no blanks. -/
theorem isBlank_of_isDigit {c : Char} (h : c.isDigit = true) : isBlank c = false := by
  have hcode : 48 ≤ c.toNat ∧ c.toNat ≤ 57 := Char.isDigit_iff_toNat.1 h
  simp only [isBlank, Bool.or_eq_false_iff, Bool.and_eq_false_iff, decide_eq_false_iff_not]
  omega

/-! ## Beginnings and ends -/

/-- What follows the given beginning, if the text begins with it. -/
def after? : List Char → List Char → Option (List Char)
  | [], cs => some cs
  | _ :: _, [] => none
  | p :: ps, c :: cs => if p = c then after? ps cs else none

/-- A text begins with `p` exactly when it is `p` and what follows. -/
theorem after?_eq_some_iff {p cs rest : List Char} : after? p cs = some rest ↔ cs = p ++ rest := by
  induction p generalizing cs with
  | nil => simp [after?, eq_comm]
  | cons a p ih =>
      cases cs with
      | nil => simp [after?]
      | cons c cs =>
          by_cases h : a = c
          · simp [after?, h, ih]
          · have h' : ¬ c = a := fun e => h e.symm
            simp [after?, h, h']

/-- What stands before the given end, if the text ends with it. -/
def before? (e cs : List Char) : Option (List Char) := (after? e.reverse cs.reverse).map List.reverse

/-- A text ends with `e` exactly when it is what stands before and `e`. -/
theorem before?_eq_some_iff {e cs rest : List Char} : before? e cs = some rest ↔ cs = rest ++ e := by
  simp only [before?, Option.map_eq_some_iff, after?_eq_some_iff]
  constructor
  · rintro ⟨r, h, rfl⟩
    simpa using congrArg List.reverse h
  · rintro rfl
    exact ⟨rest.reverse, by simp, by simp⟩

/-! ## Pieces -/

/-- The pieces between the separators; one more than there are separators. -/
def partsBy (isSeparator : Char → Bool) : List Char → List (List Char)
  | [] => [[]]
  | c :: cs =>
      if isSeparator c then [] :: partsBy isSeparator cs
      else match partsBy isSeparator cs with
        | [] => [[c]]
        | part :: rest => (c :: part) :: rest

/-- There is always a first piece. -/
theorem partsBy_ne_nil (isSeparator : Char → Bool) (cs : List Char) :
    partsBy isSeparator cs ≠ [] := by
  cases cs with
  | nil => simp [partsBy]
  | cons c cs =>
      simp only [partsBy]
      split
      · simp
      · split <;> simp

/-- The pieces between the occurrences of one character. -/
def parts (separator : Char) (cs : List Char) : List (List Char) := partsBy (· == separator) cs

/-- The longest pieces without blanks. -/
def words (cs : List Char) : List (List Char) := (partsBy isBlank cs).filter (!·.isEmpty)

/-- The text in front of the first separator and the text behind it, if there is one. -/
def cut (separator : Char) (cs : List Char) : List Char × Option (List Char) :=
  match cs.dropWhile (· != separator) with
  | [] => (cs, none)
  | _ :: rest => (cs.takeWhile (· != separator), some rest)

/-! ## Letter case -/

/-- The text with the letters `A` to `Z` in lower case; other letters are kept. -/
def lower (cs : List Char) : List Char := cs.map Char.toLower

/-- Digits are kept. -/
theorem toLower_of_isDigit {c : Char} (h : c.isDigit = true) : c.toLower = c := by
  have hcode : 48 ≤ c.toNat ∧ c.toNat ≤ 57 := Char.isDigit_iff_toNat.1 h
  unfold Char.toLower
  rw [dif_neg]
  rintro ⟨hletter, -⟩
  have hle : 65 ≤ c.toNat := UInt32.le_iff_toNat_le.1 hletter
  omega

end CanvasExport.Text
