import CanvasExport.Proofs.Lengths
import CanvasExport.Proofs.NumberText
import CanvasExport.Proofs.Numeral
import CanvasExport.Proofs.Pieces
/-!
# Grid templates as a language

A grid template is `repeat(auto-fill`, a comma, the text of a finite positive number, the unit and a
closing parenthesis, with blanks at will in between and around (`GridTemplate.IsTemplate`).  Exactly
these texts have a cell size, which is the number (`GridTemplate.cell?_eq_some_iff`).  The template that
is written for a size is one of them and has the size (`GridTemplate.isTemplate_declaration`), and
different sizes have different tokens (`GridTemplate.token_inj`).
-/

namespace CanvasExport

open Text

/-! ## Texts of finite numbers -/

namespace Binary

variable {f : Format} {cs : List Char} {x : Binary f}

/-- What is no decimal is a word, and stands for no finite number. -/
theorem exists_decimal_of_isFinite (h : ofChars? f cs = some x) (hfinite : x.isFinite = true) :
    ∃ d, Decimal.ofChars? cs = some d := by
  cases hread : Decimal.ofChars? cs with
  | some d => exact ⟨d, rfl⟩
  | none =>
      rw [ofChars?, hread] at h
      dsimp only at h
      unfold ofWord? at h
      split at h
      · cases h
        cases hfinite
      · split at h
        · cases h
          cases hfinite
        · cases h

/-- The text of a finite number has digits, signs, points and letters of a power of ten alone. -/
theorem mem_of_isFinite (h : ofChars? f cs = some x) (hfinite : x.isFinite = true) {c : Char}
    (hc : c ∈ cs) : c.isDigit = true ∨ c ∈ ['-', '+', '.', 'e', 'E'] := by
  obtain ⟨d, hread⟩ := exists_decimal_of_isFinite h hfinite
  by_contra hother
  rw [not_or, Bool.not_eq_true] at hother
  rw [Decimal.ofChars?_eq_none hc hother.1 hother.2] at hread
  cases hread

/-- So there are no blanks and no commas in it. -/
theorem isPiece_of_isFinite (h : ofChars? f cs = some x) (hfinite : x.isFinite = true) :
    IsPiece cs := by
  refine ⟨?_, fun c hc => ?_⟩
  · rintro rfl
    obtain ⟨d, hread⟩ := exists_decimal_of_isFinite h hfinite
    cases hread
  · rcases mem_of_isFinite h hfinite hc with hdigit | hmark
    · refine ⟨isBlank_of_isDigit hdigit, ?_, ?_⟩ <;> rintro rfl <;> cases hdigit
    · have hmarks : IsPiece ['-', '+', '.', 'e', 'E'] := by decide
      exact hmarks.2 c hmark

end Binary

namespace GridTemplate

/-! ## The language -/

/-- The size of a cell can be any finite positive number. -/
def IsSize (size : Double) : Prop := size.isFinite = true ∧ size.isPositive = true

/-- The characters are `repeat(auto-fill`, a comma, the text of the size, the unit and a closing
parenthesis, with blanks at will around each of them. -/
def IsTemplate (size : Double) (cs : List Char) : Prop :=
  ∃ b₀ b₁ b₂ number b₃ b₄ b₅, AllBlank b₀ ∧ AllBlank b₁ ∧ AllBlank b₂ ∧ AllBlank b₃ ∧ AllBlank b₄ ∧
    AllBlank b₅ ∧ Binary.ofChars? .double number = some size ∧ IsSize size ∧
    cs = b₀ ++ "repeat(auto-fill".toList ++ b₁ ++ ',' :: b₂ ++ number ++ b₃ ++ "px".toList ++ b₄ ++
      ')' :: b₅

/-! ## Behind the comma -/

/-- The text of a number, the unit and the closing parenthesis, with blanks in between. -/
def sizeChars (number after behind : List Char) : List Char :=
  number ++ after ++ ['p', 'x'] ++ behind ++ [')']

theorem getLast?_sizeChars (number after behind : List Char) :
    (sizeChars number after behind).getLast? = some ')' := List.getLast?_concat

theorem comma_notMem_sizeChars {number after behind : List Char} (hnumber : IsPiece number)
    (hafter : AllBlank after) (hbehind : AllBlank behind) : ',' ∉ sizeChars number after behind := by
  have hblank : isBlank ',' = false := by decide
  simp [sizeChars, hnumber.comma_notMem, hafter.notMem hblank, hbehind.notMem hblank]

/-- Trimming leaves them, with blanks around. -/
theorem trim_sizeChars {before number after behind finish : List Char} (hbefore : AllBlank before)
    (hnumber : IsPiece number) (hfinish : AllBlank finish) :
    trim (before ++ (sizeChars number after behind ++ finish)) = sizeChars number after behind := by
  apply Text.trim_between hbefore hfinish
  · intro c hc
    obtain ⟨first, rest, rfl⟩ := List.exists_cons_of_ne_nil hnumber.1
    obtain rfl : first = c := Option.some_inj.1 hc
    exact (hnumber.2 first List.mem_cons_self).1
  · intro c hc
    rw [getLast?_sizeChars] at hc
    obtain rfl := Option.some_inj.1 hc
    decide

/-- The size is read from the text of a number behind blanks, the unit and the parenthesis. -/
theorem size?_eq_some_iff {cs : List Char} {size : Double} :
    size? cs = some size ↔ ∃ before number after behind, AllBlank before ∧ AllBlank after ∧
      AllBlank behind ∧ Binary.ofChars? .double number = some size ∧ IsSize size ∧
      cs = before ++ sizeChars number after behind := by
  constructor
  · intro h
    obtain ⟨inside, hinside, h⟩ := Option.bind_eq_some_iff.1 h
    obtain ⟨lengthChars, hlength, h⟩ := Option.bind_eq_some_iff.1 h
    obtain ⟨hread, hsize⟩ := Option.filter_eq_some_iff.1 h
    obtain ⟨behind, hbehind, hend⟩ := exists_blanks_behind inside
    obtain ⟨before, after, hbefore, hafter, haround⟩ := exists_blanks_around lengthChars
    refine ⟨before, trim lengthChars, after, behind, hbefore, hafter, hbehind, hread,
      Bool.and_eq_true_iff.1 hsize, ?_⟩
    calc cs = inside ++ [')'] := before?_eq_some_iff.1 hinside
      _ = trimEnd inside ++ behind ++ [')'] := by rw [← hend]
      _ = lengthChars ++ ['p', 'x'] ++ behind ++ [')'] := by rw [before?_eq_some_iff.1 hlength]
      _ = before ++ (trim lengthChars ++ after) ++ ['p', 'x'] ++ behind ++ [')'] := by rw [← haround]
      _ = before ++ sizeChars (trim lengthChars) after behind := by simp [sizeChars]
  · rintro ⟨before, number, after, behind, hbefore, hafter, hbehind, hread, hsize, rfl⟩
    have hpiece := Binary.isPiece_of_isFinite hread hsize.1
    set lengthChars := before ++ (number ++ after) with hlength
    have hcs : before ++ sizeChars number after behind =
        lengthChars ++ ['p', 'x'] ++ behind ++ [')'] := by simp [hlength, sizeChars]
    have hend : trimEnd (lengthChars ++ ['p', 'x'] ++ behind) = lengthChars ++ ['p', 'x'] := by
      rw [trimEnd_append hbehind, trimEnd_eq_self]
      intro c hc
      rw [List.getLast?_append_of_ne_nil _ (by decide)] at hc
      obtain rfl : 'x' = c := Option.some_inj.1 hc
      decide
    rw [hcs, size?, before?_eq_some_iff.2 rfl, Option.bind_eq_bind, Option.bind_some, hend,
      before?_eq_some_iff.2 rfl, Option.bind_some, hlength, hpiece.trim_between hbefore hafter, hread,
      Option.filter_some, if_pos (Bool.and_eq_true_iff.2 hsize)]

/-! ## Reading -/

/-- A text with a cell size is a template. -/
theorem isTemplate_of_cellOfChars? {cs : List Char} {size : Double}
    (h : cellOfChars? cs = some size) : IsTemplate size cs := by
  unfold cellOfChars? at h
  split at h
  · rename_i head tail hparts
    split at h
    · rename_i hhead
      obtain ⟨-, -, hcs⟩ := parts_eq_pair_iff.1 hparts
      obtain ⟨b₀, b₁, h₀, h₁, haround⟩ := exists_blanks_around head
      obtain ⟨outer, b₅, houter, h₅, haround'⟩ := exists_blanks_around tail
      obtain ⟨inner, number, b₃, b₄, hinner, h₃, h₄, hread, hsize, htail⟩ := size?_eq_some_iff.1 h
      refine ⟨b₀, b₁, outer ++ inner, number, b₃, b₄, b₅, h₀, h₁,
        List.forall_mem_append.2 ⟨houter, hinner⟩, h₃, h₄, h₅, hread, hsize, ?_⟩
      rw [hcs, haround, haround', hhead, htail]
      simp [sizeChars]
    · cases h
  · cases h

/-- A template has the cell size that it writes. -/
theorem IsTemplate.cellOfChars? {cs : List Char} {size : Double} (h : IsTemplate size cs) :
    cellOfChars? cs = some size := by
  obtain ⟨b₀, b₁, b₂, number, b₃, b₄, b₅, h₀, h₁, h₂, h₃, h₄, h₅, hread, hsize, hcs⟩ := h
  have hnumber := Binary.isPiece_of_isFinite hread hsize.1
  have hopening : IsPiece "repeat(auto-fill".toList := by decide
  set front := b₀ ++ ("repeat(auto-fill".toList ++ b₁) with hfront
  set behind := b₂ ++ (sizeChars number b₃ b₄ ++ b₅) with hbehind
  have hparts : parts ',' cs = [front, behind] := by
    refine parts_eq_pair_iff.2 ⟨?_, ?_, ?_⟩
    · exact notMem_between h₀ h₁ (by decide) hopening.comma_notMem
    · exact notMem_between h₂ h₅ (by decide) (comma_notMem_sizeChars hnumber h₃ h₄)
    · rw [hcs, hfront, hbehind]
      simp [sizeChars]
  have hread' : size? (sizeChars number b₃ b₄) = some size :=
    size?_eq_some_iff.2 ⟨[], number, b₃, b₄, List.forall_mem_nil _, h₃, h₄, hread, hsize, rfl⟩
  rw [GridTemplate.cellOfChars?, hparts]
  dsimp only
  rw [hopening.trim_between h₀ h₁, if_pos rfl, trim_sizeChars h₂ hnumber h₅, hread']

/-- **The texts with a cell size are the templates**, and the size is the one that they write. -/
theorem cell?_eq_some_iff {template : String} {size : Double} :
    cell? template = some size ↔ IsTemplate size template.toList :=
  ⟨isTemplate_of_cellOfChars?, IsTemplate.cellOfChars?⟩

/-- A text that does not have exactly one comma has no cell size. -/
theorem cell?_eq_none_of_count {template : String} (h : template.toList.count ',' ≠ 1) :
    cell? template = none := by
  rw [cell?, cellOfChars?]
  split
  · rename_i hparts
    have hlength : 2 = template.toList.count ',' + 1 := by
      rw [← length_parts, hparts, List.length_cons, List.length_singleton]
    omega
  · rfl

/-! ## Writing -/

/-- The template that is written for a size is one. -/
theorem isTemplate_declaration {size : Double} (h : IsSize size) :
    IsTemplate size (declaration size).toList := by
  have hnone : AllBlank [] := List.forall_mem_nil _
  have hspace : AllBlank [' '] := by decide
  have hnumber : size.toText.toList = size.toChars := String.toList_ofList
  have hopening : "repeat(auto-fill, ".toList = "repeat(auto-fill".toList ++ [',', ' '] := by decide
  have hclosing : "px)".toList = "px".toList ++ [')'] := by decide
  have hchars : (declaration size).toList = [] ++ "repeat(auto-fill".toList ++ [] ++ ',' :: [' '] ++
      size.toChars ++ [] ++ "px".toList ++ [] ++ ')' :: [] := by
    unfold declaration
    simp only [String.toList_append, hnumber, hopening, hclosing, List.append_assoc, List.nil_append]
  exact ⟨[], [], [' '], size.toChars, [], [], [], hnone, hnone, hspace, hnone, hnone, hnone,
    Binary.ofChars?_toChars size, h, hchars⟩

/-- Different sizes have different tokens. -/
theorem token_inj {a b : Double} : token a = token b ↔ a = b := by
  refine ⟨fun h => ?_, congrArg token⟩
  have hchars : a.toChars = b.toChars := by
    have hlist := congrArg String.toList h
    simpa [token, Binary.toText] using hlist
  have hread : some a = some b := by
    rw [← Binary.ofChars?_toChars a, hchars, Binary.ofChars?_toChars b]
  exact Option.some_inj.1 hread

/-- The template of a size is there once the size is requested, unless the name stood for something. -/
theorem get?_register (axis : Axis) (size : Double) (t : Tokens) :
    ((t.register (.cell axis size)).dict axis.family).get? (token size) =
      ((t.dict axis.family).get? (token size)).or (some (declaration size)) :=
  Tokens.get?_register_of_definition? (q := .cell axis size) rfl t

/-- In a session it stood for the same. -/
theorem get?_register_runAll (axis : Axis) (size : Double) (operations : List Operation) :
    (((Operation.runAll operations).register (.cell axis size)).dict axis.family).get? (token size) =
      some (declaration size) := by
  refine Operation.get?_register_of_unique (q := .cell axis size) rfl ?_ operations
  intro other hfamily value' hother
  obtain ⟨size', rfl⟩ := TokenRequest.family_eq_axis_family_iff.1 hfamily
  obtain ⟨hname, rfl⟩ := Prod.mk.inj (Option.some_inj.1 hother)
  rw [token_inj.1 hname]

/-- **Templates are a language, and tokens tell their sizes.**  A text has a cell size exactly where it
is a template of the size; with no comma or several it has none.  The token that a size is resolved to,
with any tokens at hand, stands for a template of the size, unless it stood for something; in a session it
stands for nothing else.  Two templates are resolved to the same token exactly where they have the same
size. -/
theorem cell?_grammar :
    (∀ (template : String) (size : Double),
      cell? template = some size ↔ IsTemplate size template.toList) ∧
    (∀ template : String, template.toList.count ',' ≠ 1 → cell? template = none) ∧
    (∀ (axis : Axis) (size : Double) (t : Tokens), IsSize size →
      ∃ name after value, (Resolver.resolve (.cell axis size)).run.run t = (.ok name, after) ∧
        (after.dict axis.family).get? name = ((t.dict axis.family).get? name).or (some value) ∧
        (∀ operations, t = Operation.runAll operations →
          (after.dict axis.family).get? name = some value) ∧
        IsTemplate size value.toList ∧ cell? value = some size) ∧
    ∀ (template template' : String) (size size' : Double), cell? template = some size →
      cell? template' = some size' →
      ∀ (axis axis' : Axis) (t t' after after' : Tokens) (name name' : String),
        (Resolver.resolve (.cell axis size)).run.run t = (.ok name, after) →
        (Resolver.resolve (.cell axis' size')).run.run t' = (.ok name', after') →
        (name = name' ↔ size = size') := by
  refine ⟨fun template size => cell?_eq_some_iff, fun template h => cell?_eq_none_of_count h, ?_, ?_⟩
  · intro axis size t hsize
    have htemplate := isTemplate_declaration hsize
    refine ⟨token size, _, declaration size, Resolver.run_resolve _ t, ?_, ?_, htemplate,
      cell?_eq_some_iff.2 htemplate⟩
    · exact get?_register axis size t
    · rintro operations rfl
      exact get?_register_runAll axis size operations
  · intro template template' size size' _ _ axis axis' t t' after after' name name' h h'
    rw [Resolver.run_resolve] at h h'
    cases h
    cases h'
    exact token_inj

/-- A template with blanks around the number and the comma, and two templates in one text. -/
theorem cell?_grammar_sample :
    let size : Double := .round .double false 25 2
    cell? " repeat(auto-fill\t, 12.5\n px )" = some size ∧ IsSize size ∧
      cell? "repeat(auto-fill, 10px) 20px, 30px" = none ∧
      (∃ name after, (Resolver.resolve (.cell .rows size)).run.run {} = (.ok name, after) ∧
        (after.rows.get? name).bind cell? = some size) := by
  intro size
  have hread : Binary.ofChars? .double "12.5".toList = some size := by decide +kernel
  have hsize : IsSize size := by
    constructor <;> decide +kernel
  have htemplate : IsTemplate size " repeat(auto-fill\t, 12.5\n px )".toList :=
    ⟨[' '], ['\t'], [' '], "12.5".toList, ['\n', ' '], [' '], [], by decide, by decide, by decide,
      by decide, by decide, by decide, hread, hsize, by decide⟩
  obtain ⟨hgrammar, hcommas, hresolve, -⟩ := cell?_grammar
  obtain ⟨name, after, value, hname, -, hvalue, -, hcell⟩ := hresolve .rows size {} hsize
  refine ⟨(hgrammar _ _).2 htemplate, hsize, hcommas _ (by decide), name, after, hname, ?_⟩
  have hrows : after.rows.get? name = some value := hvalue [] rfl
  rw [hrows, Option.bind_some, hcell]

end GridTemplate

end CanvasExport
