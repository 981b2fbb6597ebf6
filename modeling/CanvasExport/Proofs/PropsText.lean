import CanvasExport.Proofs.ArtifactText
import CanvasExport.Proofs.Props
/-!
# The texts of properties

An object of names and values is a text in many ways: any character of a string may be escaped, a name may
come more than once, and blanks may stand between any tokens (`Props.IsObjectOf`).  A text is an object of
one list of pairs only (`Props.IsObjectOf.unique`).  It is read as the properties after inserting the pairs
in their order, and these are written as an object of each name once, in the place where it first came and
with the value that came last.
-/

namespace CanvasExport

open Json

namespace Json

/-- A text writes one tree. -/
theorem Written.unique {t t' : Tree} {text : List Char} (h : Written t text) (h' : Written t' text) :
    t = t' := by
  have htree : (t, []) = (t', []) := (treeOf_of_written h).symm.trans (treeOf_of_written h')
  exact congrArg Prod.fst htree

/-! ## Strings and their spellings -/

/-- How a character is spelled in a string: in one piece, or in two that are the halves of its surrogate
pair. -/
inductive CharText : Char → List Char → Prop
  | piece {c : Char} {cs : List Char} (h : PieceText (.char c) cs) : CharText c cs
  | pair {c : Char} {high low : Fin 1024} {cs ds : List Char}
      (hcode : c.toNat = 0x10000 + high.val * 1024 + low.val) (hhigh : PieceText (.lead high) cs)
      (hlow : PieceText (.trail low) ds) : CharText c (cs ++ ds)

/-- How characters are spelled one after the other. -/
inductive CharsText : List Char → List Char → Prop
  | nil : CharsText [] []
  | cons {c : Char} {chars cs ds : List Char} (head : CharText c cs) (tail : CharsText chars ds) :
      CharsText (c :: chars) (cs ++ ds)

/-- The text is the string between quotes, in some spelling. -/
def Spells (s : String) (text : List Char) : Prop :=
  ∃ body, CharsText s.toList body ∧ text = '"' :: (body ++ ['"'])

/-- Whatever spells characters is made of pieces that stand for these characters. -/
theorem CharsText.exists_pieces {chars cs : List Char} (h : CharsText chars cs) :
    ∃ pieces, PiecesText pieces cs ∧ charsOf none pieces = .ok chars := by
  induction h with
  | nil => exact ⟨[], .nil, rfl⟩
  | @cons c chars cs ds head tail ih =>
      obtain ⟨pieces, hpieces, hchars⟩ := ih
      cases head with
      | piece h =>
          refine ⟨.char c :: pieces, .cons h hpieces, ?_⟩
          rw [charsOf, hchars, map_ok]
      | @pair high low cs cs' hcode hhigh hlow =>
          refine ⟨.lead high :: .trail low :: pieces, ?_, ?_⟩
          · rw [List.append_assoc]
            exact .cons hhigh (.cons hlow hpieces)
          · rw [charsOf, hchars, map_ok, ← hcode, Char.ofNat_toNat]

/-- Whatever spells a string is a string with this text. -/
theorem Spells.exists_stringText {s : String} {cs : List Char} (h : Spells s cs) :
    ∃ content, StringText content cs ∧ content.text = .ok s := by
  obtain ⟨body, hbody, rfl⟩ := h
  obtain ⟨pieces, hpieces, hchars⟩ := hbody.exists_pieces
  refine ⟨⟨pieces, none⟩, .quoted hpieces, ?_⟩
  rw [Quoted.text, hchars, map_ok, String.ofList_toList]

/-- A string is spelled as it is written. -/
theorem spells_stringChars (s : String) : Spells s (stringChars s) := by
  refine ⟨s.toList.flatMap escapeChar, ?_, rfl⟩
  induction s.toList with
  | nil => exact .nil
  | cons c cs ih => exact .cons (.piece (pieceText_escapeChar c)) ih

end Json

namespace Props

/-! ## Objects of pairs -/

/-- The text is the value of a property: `null` or a string, with blanks around it. -/
inductive ValueText : Option String → List Char → Prop
  | null {before after : List Char} (hbefore : AreBlanks before) (hafter : AreBlanks after) :
      ValueText none (before ++ "null".toList ++ after)
  | text {s : String} {before cs after : List Char} (hbefore : AreBlanks before) (h : Spells s cs)
      (hafter : AreBlanks after) : ValueText (some s) (before ++ cs ++ after)

/-- The text is a name and its value, with a colon between them and blanks around each. -/
inductive PairText : String × Option String → List Char → Prop
  | pair {name : String} {value : Option String} {before cs after ds : List Char}
      (hbefore : AreBlanks before) (hname : Spells name cs) (hafter : AreBlanks after)
      (hvalue : ValueText value ds) : PairText (name, value) (before ++ cs ++ after ++ ':' :: ds)

/-- The text is an object whose members are the pairs in their order, with blanks anywhere between the
tokens. -/
def IsObjectOf (pairs : List (String × Option String)) (text : List Char) : Prop :=
  ∃ texts before space after, List.Forall₂ PairText pairs texts ∧ AreBlanks before ∧
    AreBlanks space ∧ AreBlanks after ∧
    text = before ++ '\x7b' :: (separated texts ++ (space ++ ['\x7d'])) ++ after

/-! ## Reading -/

/-- The text of a value is read as the value. -/
theorem ValueText.exists_written {value : Option String} {cs : List Char} (h : ValueText value cs) :
    ∃ t, Written t cs ∧ readOption readText t = .ok value := by
  cases h with
  | null hbefore hafter => exact ⟨.null, .around hbefore .null hafter, rfl⟩
  | @text s before cs after hbefore h hafter =>
      obtain ⟨content, hcontent, htext⟩ := h.exists_stringText
      refine ⟨.string content, .around hbefore (.string hcontent) hafter, ?_⟩
      show content.text.map some = .ok (some s)
      rw [htext, map_ok]

/-- The key and the value of the member are read as the pair. -/
def IsReadAs (m : MemberText) (pair : String × Option String) : Prop :=
  m.key.text = .ok pair.1 ∧ readOption readText m.value = .ok pair.2

/-- The text of a pair is that of a member. -/
theorem PairText.exists_member {pair : String × Option String} {cs : List Char}
    (h : PairText pair cs) : ∃ m : MemberText, m.text = cs ∧ KeyText m.key m.keyText ∧
      Written m.value m.valueText ∧ IsReadAs m pair := by
  cases h with
  | @pair name value before cs after ds hbefore hname hafter hvalue =>
      obtain ⟨content, hcontent, hkey⟩ := hname.exists_stringText
      obtain ⟨t, ht, hread⟩ := hvalue.exists_written
      exact ⟨⟨content, _, t, ds⟩, rfl, .around hbefore hcontent hafter, ht, hkey, hread⟩

/-- The texts of pairs are those of members, in their order. -/
theorem exists_members {pairs : List (String × Option String)} {texts : List (List Char)}
    (h : List.Forall₂ PairText pairs texts) :
    ∃ members : List MemberText, members.map MemberText.text = texts ∧
      (∀ m ∈ members, KeyText m.key m.keyText) ∧ (∀ m ∈ members, Written m.value m.valueText) ∧
      List.Forall₂ (fun pair m => IsReadAs m pair) pairs members := by
  induction h with
  | nil => exact ⟨[], rfl, List.forall_mem_nil _, List.forall_mem_nil _, .nil⟩
  | cons head _ ih =>
      obtain ⟨m, rfl, hkey, hvalue, hread⟩ := head.exists_member
      obtain ⟨members, rfl, hkeys, hvalues, hreads⟩ := ih
      exact ⟨m :: members, rfl, List.forall_mem_cons.2 ⟨hkey, hkeys⟩,
        List.forall_mem_cons.2 ⟨hvalue, hvalues⟩, .cons hread hreads⟩

/-- An object of pairs writes a tree that is read as these pairs. -/
theorem IsObjectOf.exists_written {pairs : List (String × Option String)} {text : List Char}
    (h : IsObjectOf pairs text) : ∃ t, Written t text ∧ ∀ expected depth, 0 < depth →
      readMembers expected depth (readOption readText) t = .ok pairs := by
  obtain ⟨texts, before, space, after, htexts, hbefore, hspace, hafter, rfl⟩ := h
  obtain ⟨members, rfl, hkeys, hvalues, hreads⟩ := exists_members htexts
  refine ⟨.object (members.map MemberText.member) .closed,
    .around hbefore (.object hkeys hvalues hspace) hafter, ?_⟩
  intro expected depth hdepth
  exact readMembers_of_forall₂ expected hdepth (List.forall₂_map_right_iff.2 hreads)

/-- A text is an object of one list of pairs. -/
theorem IsObjectOf.unique {pairs pairs' : List (String × Option String)} {text : List Char}
    (h : IsObjectOf pairs text) (h' : IsObjectOf pairs' text) : pairs = pairs' := by
  obtain ⟨t, ht, hfirst⟩ := h.exists_written
  obtain ⟨u, hu, hsecond⟩ := h'.exists_written
  obtain rfl : t = u := ht.unique hu
  have hpairs := hfirst "" 1 Nat.one_pos
  rw [hsecond "" 1 Nat.one_pos] at hpairs
  exact (Except.ok.inj hpairs).symm

/-- Wherever an object of pairs stands, it is read as the properties after inserting them. -/
theorem read_of_isObjectOf {pairs : List (String × Option String)} {text : List Char}
    (h : IsObjectOf pairs text) {t : Tree} (ht : Written t text) {depth : Nat} (hdepth : 0 < depth) :
    read depth t = .ok (ofList pairs) := by
  obtain ⟨u, hu, hread⟩ := h.exists_written
  obtain rfl : t = u := ht.unique hu
  rw [read, hread _ depth hdepth, map_ok]

/-- A text that is an object of pairs alone is read so as well. -/
theorem parse_of_isObjectOf {pairs : List (String × Option String)} {text : String}
    (h : IsObjectOf pairs text.toList) : parse text = .ok (ofList pairs) := by
  obtain ⟨t, ht, -⟩ := h.exists_written
  rw [parse, decode_of_written read ht]
  exact read_of_isObjectOf h ht (by decide)

/-! ## Writing -/

/-- The text of a value is that of a property. -/
theorem valueText_chars (layout : Json.Layout) (level : Nat) (value : Option String) :
    ValueText value (layout.space ++ (Json.ofOption value).chars layout level) := by
  have hspace := areBlanks_space layout
  have hnone : AreBlanks [] := List.forall_mem_nil _
  rw [← List.append_nil (layout.space ++ _)]
  cases value with
  | none => exact .null hspace hnone
  | some s => exact .text hspace (spells_stringChars s) hnone

/-- A name and its value are written as a pair. -/
theorem pairText_memberText (layout : Json.Layout) (level : Nat) (pair : String × Option String) :
    PairText pair (memberText layout level (pair.1, .ofOption pair.2)).text := by
  have hpair := PairText.pair (areBlanks_lineBreak layout level) (spells_stringChars pair.1)
    (List.forall_mem_nil _) (valueText_chars layout level pair.2)
  rwa [List.append_nil] at hpair

/-- **Properties are written as an object of their names and values**, in either layout. -/
theorem isObjectOf_render (p : Props) (layout : Json.Layout) :
    IsObjectOf p.entries (p.toJson.render layout).toList := by
  obtain ⟨entries, hdistinct⟩ := p
  have hnone : AreBlanks [] := List.forall_mem_nil _
  rw [Json.render, String.toList_ofList]
  cases entries with
  | nil => exact ⟨[], [], [], [], .nil, hnone, hnone, hnone, rfl⟩
  | cons pair pairs =>
      have htexts : List.Forall₂ PairText (pair :: pairs)
          ((((pair :: pairs).map fun e => (e.1, Json.ofOption e.2)).map
            (memberText layout 1)).map MemberText.text) := by
        rw [List.map_map, List.map_map]
        refine List.forall₂_map_right_iff.2 (List.forall₂_same.2 ?_)
        intro e _
        exact pairText_memberText layout 1 e
      refine ⟨_, [], layout.lineBreak 0, [], htexts, hnone, areBlanks_lineBreak layout 0, hnone, ?_⟩
      rw [toJson, List.map_cons, chars, separated_members, List.nil_append, List.append_nil]

/-! ## After insertions -/

/-- Each entry is what its name stands for. -/
theorem get?_of_mem_entries {p : Props} {name : String} {value : Option String}
    (h : (name, value) ∈ p.entries) : p.get? name = some value := by
  obtain ⟨before, after, hentries⟩ := List.append_of_mem h
  have hdistinct := p.distinct
  rw [hentries, List.map_append, List.map_cons, List.nodup_append] at hdistinct
  rw [← p.ofList_entries, get?_ofList_eq_some_iff]
  exact ⟨before, after, hentries, (List.nodup_cons.1 hdistinct.2.1).1⟩

/-- **Properties are an ordered map of the pairs that were inserted, and so are their texts.**  The names
stand in the order in which they first came, and each has the value that came last, which may be `null`;
an object of the pairs is read as these properties, and they are written as an object of each name once. -/
theorem ofList_first_place_last_value (pairs : List (String × Option String)) :
    (ofList pairs).names = (pairs.map Prod.fst).eraseDups ∧
    (ofList pairs).size = (pairs.map Prod.fst).eraseDups.length ∧
    (∀ name, (ofList pairs).get? name = none ↔ name ∉ pairs.map Prod.fst) ∧
    (∀ name value, (ofList pairs).get? name = some value ↔ IsLast pairs name value) ∧
    (∀ text : String, IsObjectOf pairs text.toList → parse text = .ok (ofList pairs) ∧
      ∀ t depth, Written t text.toList → 0 < depth → read depth t = .ok (ofList pairs)) ∧
    ∃ members : List (String × Option String),
      members.map Prod.fst = (pairs.map Prod.fst).eraseDups ∧
      (∀ name value, (name, value) ∈ members → IsLast pairs name value) ∧
      ∀ layout members', IsObjectOf members' ((ofList pairs).toJson.render layout).toList ↔
        members' = members := by
  have hnames := names_ofList pairs
  refine ⟨hnames, ?_, fun _ => get?_ofList_eq_none_iff, fun _ _ => get?_ofList_eq_some_iff,
    ?_, (ofList pairs).entries, hnames, ?_, ?_⟩
  · rw [← hnames, names, List.length_map, size]
  · intro text h
    exact ⟨parse_of_isObjectOf h, fun _ _ ht hdepth => read_of_isObjectOf h ht hdepth⟩
  · intro name value hmem
    exact get?_ofList_eq_some_iff.1 (get?_of_mem_entries hmem)
  · intro layout members'
    have hrender := (ofList pairs).isObjectOf_render layout
    constructor
    · intro h
      exact h.unique hrender
    · rintro rfl
      exact hrender

/-! ## A name that comes twice -/

/-- Pairs of which two have the same name, the first of them without a value. -/
def repeatedPairs : List (String × Option String) := [("a", none), ("b", some "x"), ("a", some "𝄞/")]

/-- An object of them, with a letter and a clef in hexadecimal digits. -/
def repeatedText : String :=
  "\x7b \"a\": null ,\"\\u0062\":\"x\",\n\"a\":\"\\ud834\\udd1e\\/\"\x7d"

theorem isObjectOf_repeatedText : IsObjectOf repeatedPairs repeatedText.toList := by
  have hnone : AreBlanks [] := List.forall_mem_nil _
  have hspace : AreBlanks [' '] := by decide
  have hbreak : AreBlanks ['\n'] := by decide
  have hletter : Spells "b" "\"\\u0062\"".toList := by
    have hb : PieceText (.char 'b') "\\u0062".toList :=
      @PieceText.hex '0' '0' '6' '2' 0 0 6 2 rfl rfl rfl rfl
    exact ⟨_, .cons (.piece hb) .nil, rfl⟩
  have hclef : Spells "𝄞/" "\"\\ud834\\udd1e\\/\"".toList := by
    have hhigh : PieceText (.lead 0x34) "\\ud834".toList :=
      @PieceText.hex 'd' '8' '3' '4' 13 8 3 4 rfl rfl rfl rfl
    have hlow : PieceText (.trail 0x11E) "\\udd1e".toList :=
      @PieceText.hex 'd' 'd' '1' 'e' 13 13 1 14 rfl rfl rfl rfl
    have hslash : PieceText (.char '/') "\\/".toList := .escape rfl
    exact ⟨_, .cons (.pair rfl hhigh hlow) (.cons (.piece hslash) .nil), rfl⟩
  have hnull := PairText.pair hspace (spells_stringChars "a") hnone (.null hspace hspace)
  have hx := PairText.pair hnone hletter hnone (.text hnone (spells_stringChars "x") hnone)
  have hlast := PairText.pair hbreak (spells_stringChars "a") hnone (.text hnone hclef hnone)
  exact ⟨_, [], [], [], .cons hnull (.cons hx (.cons hlast .nil)), hnone, hnone, hnone, rfl⟩

/-- The name has its first place and its last value. -/
theorem ofList_repeatedPairs :
    (ofList repeatedPairs).names = ["a", "b"] ∧
      (ofList repeatedPairs).get? "a" = some (some "𝄞/") ∧ (ofList repeatedPairs).get? "c" = none ∧
      parse repeatedText = .ok (ofList repeatedPairs) := by
  obtain ⟨hnames, -, hnone, hlast, hread, -⟩ := ofList_first_place_last_value repeatedPairs
  refine ⟨hnames.trans (by decide), ?_, ?_, (hread repeatedText isObjectOf_repeatedText).1⟩
  · exact (hlast "a" (some "𝄞/")).2 ⟨[("a", none), ("b", some "x")], [], rfl, List.not_mem_nil⟩
  · exact (hnone "c").2 (by decide)

end Props

end CanvasExport
