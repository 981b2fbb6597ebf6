import CanvasExport.Proofs.LetterCase
/-!
# Separated pieces

Pieces of a text are separated by commas, with blanks at will around each piece, or by blanks, of which
at least one stands between two pieces.  The pieces of a text are found again by `Text.parts`, trimmed,
where they are separated by commas, and by `Text.words` where they are separated by blanks
(`Text.Separated.split_eq`).  A slash behind them is found by `Text.cut`.
-/

namespace CanvasExport.Text

/-! ## Cutting a text -/

/-- A text without separators is one part. -/
theorem partsBy_eq_singleton {p : Char → Bool} {cs : List Char} (h : ∀ c ∈ cs, p c = false) :
    partsBy p cs = [cs] := by
  induction cs with
  | nil => rfl
  | cons c cs ih =>
      have hc : ¬ p c = true := by simp [h c List.mem_cons_self]
      rw [partsBy, if_neg hc, ih fun c hc => h c (List.mem_cons_of_mem _ hc)]

/-- A part ends at the first separator. -/
theorem partsBy_append_cons {p : Char → Bool} {cs : List Char} (h : ∀ c ∈ cs, p c = false)
    {s : Char} (hs : p s = true) (rest : List Char) :
    partsBy p (cs ++ s :: rest) = cs :: partsBy p rest := by
  induction cs with
  | nil => rw [List.nil_append, partsBy, if_pos hs]
  | cons c cs ih =>
      have hc : ¬ p c = true := by simp [h c List.mem_cons_self]
      rw [List.cons_append, partsBy, if_neg hc, ih fun c hc => h c (List.mem_cons_of_mem _ hc)]

/-- There is one part more than there are separators. -/
theorem length_parts (s : Char) (cs : List Char) : (parts s cs).length = cs.count s + 1 := by
  induction cs with
  | nil => rfl
  | cons c cs ih =>
      rw [parts] at ih
      rw [parts, partsBy, List.count_cons]
      split
      · rw [List.length_cons, ih]
      · cases hparts : partsBy (· == s) cs with
        | nil => exact absurd hparts (partsBy_ne_nil _ cs)
        | cons part rest =>
            rw [hparts] at ih
            exact ih

/-- Where the separator does not occur the text is the only part. -/
theorem parts_of_notMem {s : Char} {cs : List Char} (h : s ∉ cs) : parts s cs = [cs] := by
  refine partsBy_eq_singleton fun c hc => beq_eq_false_iff_ne.2 ?_
  rintro rfl
  exact h hc

/-- The first part ends where the separator occurs first. -/
theorem parts_append_cons {s : Char} {cs : List Char} (h : s ∉ cs) (rest : List Char) :
    parts s (cs ++ s :: rest) = cs :: parts s rest := by
  have hne : ∀ c ∈ cs, (c == s) = false := by
    intro c hc
    apply beq_eq_false_iff_ne.2
    rintro rfl
    exact h hc
  exact partsBy_append_cons hne (beq_self_eq_true s) rest

/-- There is one part where the separator does not occur. -/
theorem parts_eq_singleton_iff {s : Char} {cs part : List Char} :
    parts s cs = [part] ↔ s ∉ cs ∧ cs = part := by
  by_cases h : s ∈ cs
  · obtain ⟨first, rest, rfl, hfirst⟩ := List.eq_append_cons_of_mem h
    have hrest : parts s rest ≠ [] := partsBy_ne_nil _ rest
    simp [parts_append_cons hfirst, hrest]
  · simp [parts_of_notMem h, h]

/-- There are two parts where the separator occurs once, between them. -/
theorem parts_eq_pair_iff {s : Char} {cs front behind : List Char} :
    parts s cs = [front, behind] ↔ s ∉ front ∧ s ∉ behind ∧ cs = front ++ s :: behind := by
  constructor
  · intro h
    have hmem : s ∈ cs := by
      by_contra hnot
      rw [parts_of_notMem hnot] at h
      cases h
    obtain ⟨first, rest, rfl, hfirst⟩ := List.eq_append_cons_of_mem hmem
    rw [parts_append_cons hfirst, List.cons.injEq, parts_eq_singleton_iff] at h
    obtain ⟨rfl, hrest, rfl⟩ := h
    exact ⟨hfirst, hrest, rfl⟩
  · rintro ⟨hfront, hbehind, rfl⟩
    rw [parts_append_cons hfront, parts_of_notMem hbehind]

/-- Where the separator does not occur nothing is cut off. -/
theorem cut_of_notMem {s : Char} {cs : List Char} (h : s ∉ cs) : cut s cs = (cs, none) := by
  have hdrop : cs.dropWhile (· != s) = [] := by
    refine List.dropWhile_eq_nil_iff.2 fun c hc => ?_
    exact bne_iff_ne.2 fun e => h (e ▸ hc)
  rw [cut, hdrop]

/-- A text is cut at the first separator. -/
theorem cut_append_cons {s : Char} {cs : List Char} (h : s ∉ cs) (rest : List Char) :
    cut s (cs ++ s :: rest) = (cs, some rest) := by
  have hne : ∀ c ∈ cs, (c != s) = true := fun c hc => bne_iff_ne.2 fun e => h (e ▸ hc)
  rw [cut, List.dropWhile_append_of_pos hne, List.takeWhile_append_of_pos hne]
  simp

/-! ## Words -/

/-- Nothing but blanks. -/
def AllBlank (cs : List Char) : Prop := ∀ c ∈ cs, isBlank c = true

instance (cs : List Char) : Decidable (AllBlank cs) :=
  @List.decidableBAll Char (isBlank · = true) _ cs

/-- A text is what trimming its start leaves, behind blanks. -/
theorem exists_blanks_before (cs : List Char) :
    ∃ before, AllBlank before ∧ cs = before ++ trimStart cs :=
  ⟨cs.takeWhile isBlank, fun _ hc => List.mem_takeWhile_imp hc, List.takeWhile_append_dropWhile.symm⟩

/-- A text is what trimming its end leaves, and blanks behind it. -/
theorem exists_blanks_behind (cs : List Char) : ∃ after, AllBlank after ∧ cs = trimEnd cs ++ after := by
  obtain ⟨blanks, hblanks, hcs⟩ := exists_blanks_before cs.reverse
  refine ⟨blanks.reverse, fun c hc => hblanks c (List.mem_reverse.1 hc), ?_⟩
  rw [trimEnd_eq_reverse, ← List.reverse_append, ← hcs, List.reverse_reverse]

/-- A text is what trimming leaves, with blanks around it. -/
theorem exists_blanks_around (cs : List Char) :
    ∃ before after, AllBlank before ∧ AllBlank after ∧ cs = before ++ (trim cs ++ after) := by
  obtain ⟨before, hbefore, hstart⟩ := exists_blanks_before cs
  obtain ⟨after, hafter, hend⟩ := exists_blanks_behind (trimStart cs)
  exact ⟨before, after, hbefore, hafter, by rw [trim, ← hend, ← hstart]⟩

/-- Blanks at the start are in no word. -/
theorem words_blanks_append {space : List Char} (h : AllBlank space) (cs : List Char) :
    words (space ++ cs) = words cs := by
  induction space with
  | nil => rfl
  | cons c space ih =>
      have htail := ih fun c hc => h c (List.mem_cons_of_mem _ hc)
      rw [← htail, List.cons_append, words, partsBy, if_pos (h c List.mem_cons_self)]
      rfl

/-- Blanks have no words. -/
theorem words_of_allBlank {space : List Char} (h : AllBlank space) : words space = [] := by
  have hwords := words_blanks_append h []
  rwa [List.append_nil] at hwords

/-- A word ends at the first blank, or at the end of the text. -/
theorem words_word_append {word rest : List Char} (hne : word ≠ [])
    (hword : ∀ c ∈ word, isBlank c = false) (hgap : ∀ c ∈ rest.head?, isBlank c = true) :
    words (word ++ rest) = word :: words rest := by
  have hkept : (!word.isEmpty) = true := by simpa using hne
  cases rest with
  | nil =>
      rw [List.append_nil, words, partsBy_eq_singleton hword, List.filter_cons, if_pos hkept]
      rfl
  | cons c rest =>
      have hc : isBlank c = true := hgap c rfl
      have hblank := words_blanks_append (List.forall_mem_singleton.2 hc) rest
      rw [List.singleton_append] at hblank
      rw [words, partsBy_append_cons hword hc, List.filter_cons, if_pos hkept, hblank, words]

/-! ## Separated pieces -/

/-- A piece: at least one character, and no blank, comma or slash. -/
def IsPiece (cs : List Char) : Prop :=
  cs ≠ [] ∧ ∀ c ∈ cs, isBlank c = false ∧ c ≠ ',' ∧ c ≠ '/'

instance (cs : List Char) : Decidable (IsPiece cs) :=
  @instDecidableAnd _ _ _
    (@List.decidableBAll Char (fun c => isBlank c = false ∧ c ≠ ',' ∧ c ≠ '/') _ cs)

/-- Pieces with blanks between any two of them, and blanks at will before the first and behind the last
one. -/
inductive BlankSeparated : List (List Char) → List Char → Prop
  | nil {space : List Char} (hspace : AllBlank space) : BlankSeparated [] space
  | cons {space piece rest : List Char} {pieces : List (List Char)} (hspace : AllBlank space)
      (hpiece : IsPiece piece) (hgap : ∀ c ∈ rest.head?, isBlank c = true)
      (h : BlankSeparated pieces rest) : BlankSeparated (piece :: pieces) (space ++ (piece ++ rest))

/-- Pieces with a comma between any two of them, and blanks at will around each. -/
inductive CommaSeparated : List (List Char) → List Char → Prop
  | one {before piece after : List Char} (hbefore : AllBlank before) (hpiece : IsPiece piece)
      (hafter : AllBlank after) : CommaSeparated [piece] (before ++ (piece ++ after))
  | cons {before piece after rest : List Char} {pieces : List (List Char)}
      (hbefore : AllBlank before) (hpiece : IsPiece piece) (hafter : AllBlank after)
      (h : CommaSeparated pieces rest) :
      CommaSeparated (piece :: pieces) (before ++ (piece ++ after) ++ ',' :: rest)

/-- Pieces that are separated in one of the two ways. -/
def Separated (pieces : List (List Char)) (cs : List Char) : Prop :=
  CommaSeparated pieces cs ∨ BlankSeparated pieces cs

/-! ## Characters of separated pieces -/

/-- Blanks are neither commas nor slashes. -/
theorem AllBlank.notMem {space : List Char} (h : AllBlank space) {c : Char}
    (hc : isBlank c = false) : c ∉ space := fun hmem => by
  rw [h c hmem] at hc
  cases hc

theorem IsPiece.comma_notMem {piece : List Char} (h : IsPiece piece) : ',' ∉ piece :=
  fun hmem => (h.2 ',' hmem).2.1 rfl

theorem IsPiece.slash_notMem {piece : List Char} (h : IsPiece piece) : '/' ∉ piece :=
  fun hmem => (h.2 '/' hmem).2.2 rfl

/-- What is separated are pieces. -/
theorem Separated.isPiece {pieces : List (List Char)} {cs : List Char} (h : Separated pieces cs) :
    ∀ piece ∈ pieces, IsPiece piece := by
  rcases h with h | h
  · induction h with
    | one _ hpiece _ => exact List.forall_mem_singleton.2 hpiece
    | cons _ hpiece _ _ ih => exact List.forall_mem_cons.2 ⟨hpiece, ih⟩
  · induction h with
    | nil _ => exact List.forall_mem_nil _
    | cons _ hpiece _ _ ih => exact List.forall_mem_cons.2 ⟨hpiece, ih⟩

/-- What is neither a blank nor in the piece is not in the piece with blanks around it. -/
theorem notMem_between {before piece after : List Char} (hbefore : AllBlank before)
    (hafter : AllBlank after) {c : Char} (hc : isBlank c = false) (hpiece : c ∉ piece) :
    c ∉ before ++ (piece ++ after) := by
  simp only [List.mem_append, not_or]
  exact ⟨hbefore.notMem hc, hpiece, hafter.notMem hc⟩

/-- A piece with blanks around it is trimmed to the piece. -/
theorem IsPiece.trim_between {before piece after : List Char} (h : IsPiece piece)
    (hbefore : AllBlank before) (hafter : AllBlank after) :
    trim (before ++ (piece ++ after)) = piece :=
  Text.trim_between hbefore hafter (fun c hc => (h.2 c (List.mem_of_mem_head? hc)).1)
    fun c hc => (h.2 c (List.mem_of_mem_getLast? hc)).1

/-- There are no commas between pieces that blanks separate. -/
theorem BlankSeparated.comma_notMem {pieces : List (List Char)} {cs : List Char}
    (h : BlankSeparated pieces cs) : ',' ∉ cs := by
  induction h with
  | nil hspace => exact hspace.notMem (by decide)
  | cons hspace hpiece _ _ ih =>
      simp only [List.mem_append, not_or]
      exact ⟨hspace.notMem (by decide), hpiece.comma_notMem, ih⟩

/-- There are no slashes between separated pieces. -/
theorem Separated.slash_notMem {pieces : List (List Char)} {cs : List Char}
    (h : Separated pieces cs) : '/' ∉ cs := by
  rcases h with h | h
  · induction h with
    | one hbefore hpiece hafter => exact notMem_between hbefore hafter (by decide) hpiece.slash_notMem
    | cons hbefore hpiece hafter _ ih =>
        have hfirst := notMem_between hbefore hafter (by decide) hpiece.slash_notMem
        rw [List.mem_append, List.mem_cons]
        rintro (hmem | hmem | hmem)
        · exact hfirst hmem
        · cases hmem
        · exact ih hmem
  · induction h with
    | nil hspace => exact hspace.notMem (by decide)
    | cons hspace hpiece _ _ ih =>
        simp only [List.mem_append, not_or]
        exact ⟨hspace.notMem (by decide), hpiece.slash_notMem, ih⟩

/-! ## Finding the pieces -/

/-- The pieces that blanks separate are the words. -/
theorem BlankSeparated.words_eq {pieces : List (List Char)} {cs : List Char}
    (h : BlankSeparated pieces cs) : words cs = pieces := by
  induction h with
  | nil hspace => exact words_of_allBlank hspace
  | cons hspace hpiece hgap _ ih =>
      rw [words_blanks_append hspace, words_word_append hpiece.1 (fun c hc => (hpiece.2 c hc).1) hgap,
        ih]

/-- The pieces that commas separate are the trimmed parts. -/
theorem CommaSeparated.parts_eq {pieces : List (List Char)} {cs : List Char}
    (h : CommaSeparated pieces cs) : (parts ',' cs).map trim = pieces := by
  -- up to the next comma there is one part
  have hcomma {before piece after : List Char} (hbefore : AllBlank before) (hpiece : IsPiece piece)
      (hafter : AllBlank after) : ',' ∉ before ++ (piece ++ after) :=
    notMem_between hbefore hafter (by decide) hpiece.comma_notMem
  induction h with
  | one hbefore hpiece hafter =>
      rw [parts_of_notMem (hcomma hbefore hpiece hafter), List.map_singleton,
        hpiece.trim_between hbefore hafter]
  | cons hbefore hpiece hafter _ ih =>
      rw [parts_append_cons (hcomma hbefore hpiece hafter), List.map_cons,
        hpiece.trim_between hbefore hafter, ih]

/-- **Separated pieces are found again**: where there is a comma by the commas, and else by the
blanks. -/
theorem Separated.split_eq {pieces : List (List Char)} {cs : List Char} (h : Separated pieces cs) :
    (if cs.contains ',' then (parts ',' cs).map trim else words cs) = pieces := by
  have hblank (h : BlankSeparated pieces cs) :
      (if cs.contains ',' then (parts ',' cs).map trim else words cs) = pieces := by
    have hno : ¬ cs.contains ',' = true := by
      rw [List.contains_iff_mem]
      exact h.comma_notMem
    rw [if_neg hno, h.words_eq]
  rcases h with h | h
  · cases h with
    | one hbefore hpiece hafter =>
        -- one piece alone has no comma at its side
        refine hblank (.cons hbefore hpiece ?_ (.nil hafter))
        exact fun c hc => hafter c (List.mem_of_mem_head? hc)
    | cons hbefore hpiece hafter hrest =>
        have hcomma := (CommaSeparated.cons hbefore hpiece hafter hrest).parts_eq
        rw [if_pos (by simp), hcomma]
  · exact hblank h

/-! ## Letter case -/

theorem AllBlank.lower_eq {space : List Char} (h : AllBlank space) : AllBlank (lower space) := by
  intro c hc
  obtain ⟨b, hb, rfl⟩ := List.mem_map.1 hc
  rw [isBlank_toLower]
  exact h b hb

theorem IsPiece.lower {piece : List Char} (h : IsPiece piece) : IsPiece (lower piece) := by
  refine ⟨fun e => h.1 (List.map_eq_nil_iff.1 e), fun c hc => ?_⟩
  obtain ⟨b, hb, rfl⟩ := List.mem_map.1 hc
  obtain ⟨hblank, hcomma, hslash⟩ := h.2 b hb
  exact ⟨(isBlank_toLower b).trans hblank, mt (toLower_eq_iff (by decide) b).1 hcomma,
    mt (toLower_eq_iff (by decide) b).1 hslash⟩

/-- Separated pieces are separated in lower case as well. -/
theorem Separated.lower {pieces : List (List Char)} {cs : List Char} (h : Separated pieces cs) :
    Separated (pieces.map Text.lower) (Text.lower cs) := by
  rcases h with h | h
  · left
    induction h with
    | one hbefore hpiece hafter =>
        rw [lower_append, lower_append]
        exact .one hbefore.lower_eq hpiece.lower hafter.lower_eq
    | cons hbefore hpiece hafter _ ih =>
        rw [lower_append, lower_append, lower_append, lower_cons]
        exact .cons hbefore.lower_eq hpiece.lower hafter.lower_eq ih
  · right
    induction h with
    | nil hspace => exact .nil hspace.lower_eq
    | cons hspace hpiece hgap _ ih =>
        rw [lower_append, lower_append]
        refine .cons hspace.lower_eq hpiece.lower ?_ ih
        intro c hc
        rw [Text.lower, List.head?_map, Option.mem_def, Option.map_eq_some_iff] at hc
        obtain ⟨b, hb, rfl⟩ := hc
        rw [isBlank_toLower]
        exact hgap b hb

end CanvasExport.Text
