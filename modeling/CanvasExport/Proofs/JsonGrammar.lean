import CanvasExport.Json.Read
import Mathlib.Data.List.Basic
/-!
# The grammar of JSON texts

`Written` tells which characters write a tree: each value has its notation, items and members stand
between commas, and blanks may stand around every value and every key.  It shares with the scanner
the tables of characters and the form of numbers, and none of its states.  Whatever text writes a
tree is read as this tree, to its end (`treeOf_of_written`): by induction on the grammar, a value is
read wherever it stands and settled in the containers around it (`Written.reads`).
-/

namespace CanvasExport.Json

open Scanner (isBlank hexValue? escaped? pieceOf)

/-! ## Numbers -/

/-- The phase of a number after some more characters. -/
def Phase.after? (phase : Phase) (cs : List Char) : Option Phase := cs.foldlM Phase.next? phase

theorem Phase.after?_cons (phase : Phase) (c : Char) (cs : List Char) :
    phase.after? (c :: cs) = (phase.next? c).bind (·.after? cs) := rfl

theorem Phase.after?_append (phase : Phase) (cs ds : List Char) :
    phase.after? (cs ++ ds) = (phase.after? cs).bind (·.after? ds) := List.foldlM_append

/-- The characters write a number: a minus sign or none, and what may follow it. -/
def IsNumeral (literal : List Char) : Prop :=
  ∃ negative body phase, literal = Decimal.signChars negative ++ body ∧
    Phase.minus.after? body = some phase ∧ phase.isComplete = true

/-! ## Strings -/

/-- How a piece of a string is written: as the character itself, as a backslash with a letter, or as
four hexadecimal digits, which may also be half of a surrogate pair. -/
inductive PieceText : Piece → List Char → Prop
  | plain {c : Char} (hquote : c ≠ '"') (hslash : c ≠ '\\') (hcontrol : 0x20 ≤ c.toNat) :
      PieceText (.char c) [c]
  | escape {letter c : Char} (h : escaped? letter = some c) : PieceText (.char c) ['\\', letter]
  | hex {a b c d : Char} {m n p q : Nat} (ha : hexValue? a = some m) (hb : hexValue? b = some n)
      (hc : hexValue? c = some p) (hd : hexValue? d = some q) :
      PieceText (pieceOf (16 * (16 * (16 * m + n) + p) + q)) ['\\', 'u', a, b, c, d]

/-- How pieces are written one after the other. -/
inductive PiecesText : List Piece → List Char → Prop
  | nil : PiecesText [] []
  | cons {piece : Piece} {pieces : List Piece} {cs ds : List Char} (head : PieceText piece cs)
      (tail : PiecesText pieces ds) : PiecesText (piece :: pieces) (cs ++ ds)

/-- How a string is written: its pieces between quotes. -/
inductive StringText : Quoted → List Char → Prop
  | quoted {pieces : List Piece} {cs : List Char} (h : PiecesText pieces cs) :
      StringText ⟨pieces, none⟩ ('"' :: (cs ++ ['"']))

/-! ## Values -/

/-- All of the characters are blanks. -/
def AreBlanks (cs : List Char) : Prop := ∀ c ∈ cs, isBlank c = true

instance (cs : List Char) : Decidable (AreBlanks cs) :=
  List.decidableBAll (fun c => isBlank c = true) cs

/-- How a key is written: as a string, with blanks around it. -/
inductive KeyText : Quoted → List Char → Prop
  | around {key : Quoted} {before cs after : List Char} (hbefore : AreBlanks before)
      (h : StringText key cs) (hafter : AreBlanks after) : KeyText key (before ++ cs ++ after)

/-- A member of an object, with the characters of its key and of its value. -/
structure MemberText where
  key : Quoted
  keyText : List Char
  value : Tree
  valueText : List Char

/-- The key and the value. -/
def MemberText.member (m : MemberText) : Quoted × Tree := (m.key, m.value)

/-- The characters of a member. -/
def MemberText.text (m : MemberText) : List Char := m.keyText ++ ':' :: m.valueText

/-- Texts with commas between them. -/
def separated (texts : List (List Char)) : List Char := [','].intercalate texts

@[simp] theorem separated_singleton (text : List Char) : separated [text] = text := by
  simp [separated, List.intercalate]

@[simp] theorem separated_cons_cons (text next : List Char) (texts : List (List Char)) :
    separated (text :: next :: texts) = text ++ ',' :: separated (next :: texts) := by
  simp [separated, List.intercalate]

/-- How a value is written. -/
inductive Written : Tree → List Char → Prop
  | null : Written .null "null".toList
  | bool (b : Bool) : Written (.bool b) (if b then "true" else "false").toList
  | number {literal : List Char} (h : IsNumeral literal) : Written (.number literal) literal
  | string {content : Quoted} {cs : List Char} (h : StringText content cs) :
      Written (.string content) cs
  | array {items : List (Tree × List Char)} {space : List Char}
      (hitems : ∀ item ∈ items, Written item.1 item.2) (hspace : AreBlanks space) :
      Written (.array (items.map Prod.fst) .closed)
        ('[' :: (separated (items.map Prod.snd) ++ (space ++ [']'])))
  | object {members : List MemberText} {space : List Char}
      (hkeys : ∀ m ∈ members, KeyText m.key m.keyText)
      (hvalues : ∀ m ∈ members, Written m.value m.valueText) (hspace : AreBlanks space) :
      Written (.object (members.map MemberText.member) .closed)
        ('\x7b' :: (separated (members.map MemberText.text) ++ (space ++ ['\x7d'])))
  | around {t : Tree} {before cs after : List Char} (hbefore : AreBlanks before)
      (h : Written t cs) (hafter : AreBlanks after) : Written t (before ++ cs ++ after)

/-- There is no fault in what is written as a string. -/
theorem StringText.fault_eq_none {content : Quoted} {cs : List Char} (h : StringText content cs) :
    content.fault = none := by
  cases h
  rfl

theorem KeyText.fault_eq_none {key : Quoted} {cs : List Char} (h : KeyText key cs) :
    key.fault = none := by
  cases h with
  | around hbefore h hafter => exact h.fault_eq_none

/-- There is no fault in what is written. -/
theorem Written.fault?_eq_none {t : Tree} {cs : List Char} (h : Written t cs) :
    t.fault? = none := by
  induction h with
  | string h => exact h.fault_eq_none
  | around hbefore h hafter ih => exact ih
  | _ => rfl

/-! ## Scanning -/

/-- A number is over here: the text ends, or goes on with what is no part of a number. -/
def EndsNumber (rest : List Char) : Prop :=
  ∀ c ∈ rest.head?, c.isDigit = false ∧ c ≠ '.' ∧ c ≠ 'e' ∧ c ≠ 'E'

theorem endsNumber_nil : EndsNumber [] := by simp [EndsNumber]

theorem endsNumber_cons (c : Char) (h : c.isDigit = false ∧ c ≠ '.' ∧ c ≠ 'e' ∧ c ≠ 'E')
    (rest : List Char) : EndsNumber (c :: rest) := by
  rintro d hd
  cases hd
  exact h

/-- Blanks end a number. -/
theorem EndsNumber.blanks {space rest : List Char} (hspace : AreBlanks space)
    (hrest : EndsNumber rest) : EndsNumber (space ++ rest) := by
  cases space with
  | nil => exact hrest
  | cons c space =>
      have hblank := hspace c List.mem_cons_self
      simp only [isBlank, Bool.or_eq_true, decide_eq_true_eq] at hblank
      rcases hblank with ((rfl | rfl) | rfl) | rfl <;> exact endsNumber_cons _ (by decide) _

/-- A character that ends a number does not go on with it. -/
theorem Phase.next?_eq_none {phase : Phase} (hphase : phase.isComplete = true) {c : Char}
    (hdigit : c.isDigit = false) (hpoint : c ≠ '.') (he : c ≠ 'e') (hE : c ≠ 'E') :
    phase.next? c = none := by
  cases phase <;>
    simp_all [isComplete, next?, next?.afterWhole, next?.afterFraction]

namespace Scanner

/-- One character more, and the tokens that it completes. -/
theorem run_cons (s : Scanner) (c : Char) (cs : List Char) :
    s.run (c :: cs) = (s.step c).1 ++ (s.step c).2.run cs := by
  rw [run]
  obtain ⟨tokens, next⟩ := s.step c
  cases tokens with
  | nil => rfl
  | cons token tokens => rfl

/-- A character that completes no token. -/
theorem run_cons_of_step {s : Scanner} (next : Scanner) {c : Char} (h : s.step c = ([], next))
    (cs : List Char) : s.run (c :: cs) = next.run cs := by
  rw [run_cons, h, List.nil_append]

/-- Blanks between tokens do not matter. -/
theorem run_blanks {space : List Char} (h : AreBlanks space) (cs : List Char) :
    run .between (space ++ cs) = run .between cs := by
  induction space with
  | nil => rfl
  | cons c space ih =>
      obtain ⟨hc, hspace⟩ := List.forall_mem_cons.1 h
      have hstep : step .between c = ([], .between) := by
        show start c = ([], .between)
        unfold start
        rw [if_pos hc]
      rw [List.cons_append, run_cons_of_step _ hstep, ih hspace]

/-! ### Strings -/

/-- A letter that stands for a character behind a backslash does not begin a hexadecimal number. -/
theorem ne_of_escaped? {letter c : Char} (h : escaped? letter = some c) : letter ≠ 'u' := by
  rintro rfl
  cases h

/-- A piece of a string is read from the characters that write it. -/
theorem run_piece {piece : Piece} {cs : List Char} (h : PieceText piece cs) (read : List Piece)
    (rest : List Char) : run (.string read) (cs ++ rest) = run (.string (piece :: read)) rest := by
  cases h with
  | @plain c hquote hslash hcontrol =>
      have hstep : step (.string read) c = ([], .string (.char c :: read)) := by
        rw [step, if_neg hquote, if_neg hslash, if_neg (Nat.not_lt.2 hcontrol)]
      exact run_cons_of_step _ hstep rest
  | @escape letter c h =>
      simp only [List.cons_append, List.nil_append]
      rw [run_cons_of_step (.escape read) rfl,
        run_cons_of_step (.string (.char c :: read)) (by simp [step, h, ne_of_escaped? h])]
  | @hex a b c d m n p q ha hb hc hd =>
      simp only [List.cons_append, List.nil_append]
      rw [run_cons_of_step (.escape read) rfl, run_cons_of_step (.hex read 0 0) rfl,
        run_cons_of_step (.hex read 1 m) (by simp [step, ha]),
        run_cons_of_step (.hex read 2 (16 * m + n)) (by simp [step, hb]),
        run_cons_of_step (.hex read 3 (16 * (16 * m + n) + p)) (by simp [step, hc]),
        run_cons_of_step (.string (pieceOf (16 * (16 * (16 * m + n) + p) + q) :: read))
          (by simp [step, hd])]

/-- The pieces of a string are read up to its closing quote. -/
theorem run_pieces {pieces : List Piece} {cs : List Char} (h : PiecesText pieces cs)
    (read : List Piece) (rest : List Char) :
    run (.string read) (cs ++ '"' :: rest) =
      .string ⟨read.reverse ++ pieces, none⟩ :: run .between rest := by
  induction h generalizing read with
  | nil =>
      show run (.string read) ('"' :: rest) = _
      rw [run_cons]
      simp [step]
  | cons head tail ih =>
      rw [List.append_assoc, run_piece head, ih]
      simp

/-- A string is read from its opening to its closing quote. -/
theorem run_string {content : Quoted} {cs : List Char} (h : StringText content cs)
    (rest : List Char) : run .between (cs ++ rest) = .string content :: run .between rest := by
  cases h with
  | quoted h =>
      rw [List.cons_append, run_cons_of_step (.string []) rfl, List.append_assoc]
      exact run_pieces h [] rest

/-- A key is read with the blanks around it. -/
theorem run_key {key : Quoted} {cs : List Char} (h : KeyText key cs) (rest : List Char) :
    run .between (cs ++ rest) = .string key :: run .between rest := by
  cases h with
  | around hbefore h hafter =>
      rw [List.append_assoc, List.append_assoc, run_blanks hbefore, run_string h,
        run_blanks hafter]

/-! ### Numbers -/

/-- A number is read to its end, and then the text behind it. -/
theorem run_number {rest : List Char} (hrest : EndsNumber rest) {cs : List Char}
    {phase last : Phase} (hcs : phase.after? cs = some last) (hlast : last.isComplete = true)
    (read : List Char) :
    run (.number phase read) (cs ++ rest) = .number (read.reverse ++ cs) :: run .between rest := by
  induction cs generalizing phase read with
  | nil =>
      obtain rfl : phase = last := Option.some.inj hcs
      cases rest with
      | nil => simp [run, finish, hlast]
      | cons c rest =>
          obtain ⟨hdigit, hpoint, he, hE⟩ := hrest c rfl
          have hnext := Phase.next?_eq_none hlast hdigit hpoint he hE
          have hstep : step (.number phase read) c =
              (.number read.reverse :: (start c).1, (start c).2) := by
            simp [step, hnext, hlast, hdigit]
          rw [List.nil_append, run_cons, hstep, List.append_nil, run_cons .between]
          rfl
  | cons c cs ih =>
      rw [Phase.after?_cons] at hcs
      obtain ⟨next, hnext, hcs⟩ := Option.bind_eq_some_iff.1 hcs
      have hstep : step (.number phase read) c = ([], .number next (c :: read)) := by
        simp [step, hnext]
      rw [List.cons_append, run_cons_of_step _ hstep, ih hcs]
      simp

/-- A digit begins a number as it goes on behind a minus sign. -/
theorem start_eq_of_next? {c : Char} {phase : Phase} (h : Phase.minus.next? c = some phase) :
    start c = ([], .number phase [c]) := by
  by_cases hzero : c = '0'
  · subst hzero
    cases h
    rfl
  · have hdigit : c.isDigit = true := by
      by_contra hdigit
      simp [Phase.next?, hzero, hdigit] at h
    have hphase : phase = .whole := by
      simpa [Phase.next?, hzero, hdigit, eq_comm] using h
    have hne (d : Char) (hd : d.isDigit = false) : c ≠ d := by
      rintro rfl
      rw [hd] at hdigit
      cases hdigit
    have hblank : isBlank c = false := by
      simp [isBlank, hne ' ' rfl, hne '\t' rfl, hne '\n' rfl, hne '\r' rfl]
    subst hphase
    unfold start
    rw [hblank, if_neg (by decide)]
    split
    case h_12 => exact absurd rfl hzero
    case h_13 => rw [if_pos hdigit]
    -- the brackets, separators and first letters of words are no digits
    all_goals exact absurd hdigit (by decide)

theorem run_numeral {literal : List Char} (h : IsNumeral literal) {rest : List Char}
    (hrest : EndsNumber rest) :
    run .between (literal ++ rest) = .number literal :: run .between rest := by
  obtain ⟨negative, body, last, rfl, hbody, hlast⟩ := h
  cases negative with
  | true =>
      show run .between ('-' :: (body ++ rest)) = .number ('-' :: body) :: _
      rw [run_cons_of_step (.number .minus ['-']) rfl, run_number hrest hbody hlast]
      rfl
  | false =>
      show run .between (body ++ rest) = .number body :: _
      cases body with
      | nil =>
          -- a sign alone is not complete
          cases hbody
          cases hlast
      | cons c cs =>
          rw [Phase.after?_cons] at hbody
          obtain ⟨phase, hphase, hcs⟩ := Option.bind_eq_some_iff.1 hbody
          have hstep : step .between c = ([], .number phase [c]) := start_eq_of_next? hphase
          rw [List.cons_append, run_cons_of_step _ hstep, run_number hrest hcs hlast]
          rfl

end Scanner

/-! ## Putting values together -/

/-- The outermost value from a place on in a text, and the tokens behind it. -/
def assembleText (place : Place) (frames : List Frame) (cs : List Char) : Tree × List Token :=
  assemble place frames (Scanner.run .between cs)

/-- The outermost value behind a move, where the text goes on so. -/
def Move.resume (m : Move) (rest : List Char) : Tree × List Token :=
  match m with
  | .done tree => (tree, Scanner.run .between rest)
  | .go place frames => assembleText place frames rest

/-- One token more. -/
theorem assembleText_of_run {cs rest : List Char} {token : Token}
    (h : Scanner.run .between cs = token :: Scanner.run .between rest) (place : Place)
    (frames : List Frame) :
    assembleText place frames cs = (place.move frames token).resume rest := by
  rw [assembleText, h, assemble]
  cases place.move frames token <;> rfl

theorem assembleText_blanks {space : List Char} (h : AreBlanks space) (place : Place)
    (frames : List Frame) (rest : List Char) :
    assembleText place frames (space ++ rest) = assembleText place frames rest := by
  rw [assembleText, Scanner.run_blanks h, assembleText]

/-- The characters are read as the tree wherever a value must come, and the tree is settled in the
containers around it. -/
def Reads (t : Tree) (cs : List Char) : Prop :=
  ∀ frames rest, EndsNumber rest →
    assembleText .value frames (cs ++ rest) = (settle t frames).resume rest

namespace Reads

/-- A value that is one token. -/
theorem of_token {t : Tree} {cs : List Char} {token : Token}
    (hrun : ∀ rest, EndsNumber rest →
      Scanner.run .between (cs ++ rest) = token :: Scanner.run .between rest)
    (hmove : ∀ frames, beginValue frames token = settle t frames) : Reads t cs := by
  intro frames rest hrest
  rw [assembleText_of_run (hrun rest hrest)]
  exact congrArg (·.resume rest) (hmove frames)

theorem around {t : Tree} {before cs after : List Char} (hbefore : AreBlanks before)
    (h : Reads t cs) (hafter : AreBlanks after) : Reads t (before ++ cs ++ after) := by
  intro frames rest hrest
  rw [List.append_assoc, List.append_assoc, assembleText_blanks hbefore,
    h frames _ (hrest.blanks hafter)]
  cases settle t frames with
  | done tree => rw [Move.resume, Scanner.run_blanks hafter, Move.resume]
  | go place frames => exact assembleText_blanks hafter place frames rest

/-! ### Arrays -/

/-- An item is put behind those in front of it. -/
theorem item {t : Tree} {cs : List Char} (h : Reads t cs) (ht : t.fault? = none)
    (before : List Tree) (frames : List Frame) {rest : List Char} (hrest : EndsNumber rest) :
    assembleText (.item before) frames (cs ++ rest) =
      assembleText (.afterItem (t :: before)) frames rest := by
  have hvalue := h (.array before :: frames) rest hrest
  have hwhole : assembleText .value [] (cs ++ rest) = (t, _) := h [] rest hrest
  unfold assembleText at hvalue hwhole
  -- if the text ended or went on with a bracket here, the value alone would be a fault
  cases htokens : Scanner.run .between (cs ++ rest) with
  | nil =>
      rw [htokens] at hwhole
      obtain rfl : Tree.broken .ended = t := congrArg Prod.fst hwhole
      cases ht
  | cons token tokens =>
      rw [htokens] at hvalue hwhole
      have hne : token ≠ .closeArray := by
        rintro rfl
        obtain rfl : Tree.broken .malformed = t := congrArg Prod.fst hwhole
        cases ht
      have hmove : Place.move frames (.item before) token =
          Place.move (.array before :: frames) .value token := by
        show (if token = .closeArray then _ else beginValue (.array before :: frames) token) = _
        rw [if_neg hne]
        rfl
      rw [assemble] at hvalue
      rw [assembleText, htokens, assemble, hmove, hvalue]
      rfl

end Reads

/-- The items of an array are put together, and the array is settled. -/
theorem assembleText_items {items : List (Tree × List Char)}
    (hitems : ∀ item ∈ items, Reads item.1 item.2 ∧ item.1.fault? = none) (hne : items ≠ [])
    {space : List Char} (hspace : AreBlanks space) (before : List Tree) (frames : List Frame)
    (rest : List Char) :
    assembleText (.item before) frames
        (separated (items.map Prod.snd) ++ (space ++ ']' :: rest)) =
      (settle (.array (before.reverse ++ items.map Prod.fst) .closed) frames).resume rest := by
  induction items generalizing before with
  | nil => exact absurd rfl hne
  | cons item items ih =>
      obtain ⟨⟨hitem, hfault⟩, hitems⟩ := List.forall_mem_cons.1 hitems
      cases items with
      | nil =>
          have hend := (endsNumber_cons ']' (by decide) rest).blanks hspace
          rw [List.map_singleton, separated_singleton, hitem.item hfault before frames hend,
            assembleText_blanks hspace, assembleText_of_run (Scanner.run_cons .between ']' rest)]
          simp [Place.move]
      | cons next items =>
          rw [List.map_cons, List.map_cons, separated_cons_cons, List.append_assoc,
            List.cons_append, hitem.item hfault before frames (endsNumber_cons ',' (by decide) _),
            assembleText_of_run (Scanner.run_cons .between ',' _)]
          show assembleText (.item (item.1 :: before)) frames _ = _
          rw [← List.map_cons, ih hitems (List.cons_ne_nil _ _)]
          simp

/-- The items of an array, or none. -/
theorem Reads.array {items : List (Tree × List Char)}
    (hitems : ∀ item ∈ items, Reads item.1 item.2 ∧ item.1.fault? = none) {space : List Char}
    (hspace : AreBlanks space) :
    Reads (.array (items.map Prod.fst) .closed)
      ('[' :: (separated (items.map Prod.snd) ++ (space ++ [']']))) := by
  intro frames rest _
  rw [List.cons_append, assembleText_of_run (Scanner.run_cons .between '[' _)]
  show assembleText (.item []) frames _ = _
  simp only [List.append_assoc, List.singleton_append]
  cases items with
  | nil =>
      show assembleText (.item []) frames (space ++ ']' :: rest) = _
      rw [assembleText_blanks hspace, assembleText_of_run (Scanner.run_cons .between ']' rest)]
      rfl
  | cons item items =>
      rw [assembleText_items hitems (List.cons_ne_nil _ _) hspace]
      rfl

/-! ### Objects -/

/-- A member of an object is put behind those in front of it. -/
theorem assembleText_member {m : MemberText} (hkey : KeyText m.key m.keyText)
    (hvalue : Reads m.value m.valueText) (before : List (Quoted × Tree)) (frames : List Frame)
    {rest : List Char} (hrest : EndsNumber rest) :
    assembleText (.key before) frames (m.text ++ rest) =
      assembleText (.afterMember (m.member :: before)) frames rest := by
  rw [MemberText.text, List.append_assoc, assembleText_of_run (Scanner.run_key hkey _)]
  simp only [Place.move, hkey.fault_eq_none, Move.resume, List.cons_append]
  rw [assembleText_of_run (Scanner.run_cons .between ':' _)]
  show assembleText .value (.object before m.key :: frames) (m.valueText ++ rest) = _
  rw [hvalue _ _ hrest]
  rfl

/-- The members of an object are put together, and the object is settled. -/
theorem assembleText_members {members : List MemberText}
    (hmembers : ∀ m ∈ members, KeyText m.key m.keyText ∧ Reads m.value m.valueText)
    (hne : members ≠ []) {space : List Char} (hspace : AreBlanks space)
    (before : List (Quoted × Tree)) (frames : List Frame) (rest : List Char) :
    assembleText (.key before) frames
        (separated (members.map MemberText.text) ++ (space ++ '\x7d' :: rest)) =
      (settle (.object (before.reverse ++ members.map MemberText.member) .closed)
        frames).resume rest := by
  induction members generalizing before with
  | nil => exact absurd rfl hne
  | cons m members ih =>
      obtain ⟨⟨hkey, hvalue⟩, hmembers⟩ := List.forall_mem_cons.1 hmembers
      cases members with
      | nil =>
          have hend := (endsNumber_cons '\x7d' (by decide) rest).blanks hspace
          rw [List.map_singleton, separated_singleton,
            assembleText_member hkey hvalue before frames hend, assembleText_blanks hspace,
            assembleText_of_run (Scanner.run_cons .between '\x7d' rest)]
          simp [Place.move]
      | cons next members =>
          rw [List.map_cons, List.map_cons, separated_cons_cons, List.append_assoc,
            List.cons_append,
            assembleText_member hkey hvalue before frames (endsNumber_cons ',' (by decide) _),
            assembleText_of_run (Scanner.run_cons .between ',' _)]
          show assembleText (.key (m.member :: before)) frames _ = _
          rw [← List.map_cons, ih hmembers (List.cons_ne_nil _ _)]
          simp

/-- The members of an object, or none. -/
theorem Reads.object {members : List MemberText}
    (hmembers : ∀ m ∈ members, KeyText m.key m.keyText ∧ Reads m.value m.valueText)
    {space : List Char} (hspace : AreBlanks space) :
    Reads (.object (members.map MemberText.member) .closed)
      ('\x7b' :: (separated (members.map MemberText.text) ++ (space ++ ['\x7d']))) := by
  intro frames rest _
  rw [List.cons_append, assembleText_of_run (Scanner.run_cons .between '\x7b' _)]
  show assembleText (.key []) frames _ = _
  simp only [List.append_assoc, List.singleton_append]
  cases members with
  | nil =>
      show assembleText (.key []) frames (space ++ '\x7d' :: rest) = _
      rw [assembleText_blanks hspace, assembleText_of_run (Scanner.run_cons .between '\x7d' rest)]
      rfl
  | cons m members =>
      rw [assembleText_members hmembers (List.cons_ne_nil _ _) hspace]
      rfl

/-! ## Reading what is written -/

/-- What writes a tree is read as this tree. -/
theorem Written.reads {t : Tree} {cs : List Char} (h : Written t cs) : Reads t cs := by
  induction h with
  | null => exact .of_token (fun _ _ => rfl) fun _ => rfl
  | bool b => cases b <;> exact .of_token (fun _ _ => rfl) fun _ => rfl
  | number h => exact .of_token (fun _ hrest => Scanner.run_numeral h hrest) fun _ => rfl
  | @string content cs h =>
      refine .of_token (fun rest _ => Scanner.run_string h rest) fun frames => ?_
      rw [beginValue, h.fault_eq_none]
  | array hitems hspace ih =>
      exact .array (fun item hitem => ⟨ih item hitem, (hitems item hitem).fault?_eq_none⟩) hspace
  | object hkeys hvalues hspace ih =>
      exact .object (fun m hm => ⟨hkeys m hm, ih m hm⟩) hspace
  | around hbefore h hafter ih => exact ih.around hbefore hafter

/-- A text that writes a tree is read as this tree, and nothing stands behind it. -/
theorem treeOf_of_written {t : Tree} {text : List Char} (h : Written t text) :
    treeOf text = (t, []) := by
  have hread := h.reads [] [] endsNumber_nil
  rw [List.append_nil] at hread
  exact hread

/-- **Whoever reads a text that writes a tree reads this tree.** -/
theorem decode_of_written {α : Type} (read : Nat → Tree → Result α) {t : Tree} {text : String}
    (h : Written t text.toList) : decode read text = read depthLimit t := by
  rw [decode, treeOf_of_written h]
  show (read depthLimit t >>= fun value => pure value) = _
  exact bind_pure _

end CanvasExport.Json
