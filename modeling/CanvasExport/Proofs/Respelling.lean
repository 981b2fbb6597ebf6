import CanvasExport.Proofs.DocumentText
/-!
# Spellings of a document

A document has many texts besides the one that is written for it.  In the objects of the document, of
its nodes, of its descriptors and of their parameters the keys may come in any order, a field that
holds its default may be left out, an absent tag may be `null`, and there may be keys that are no
fields, with any value; and blanks may stand between any tokens (`Document.IsSpelling`).  A readable
document is read from each of them (`Document.parse_of_isSpelling`).
-/

namespace CanvasExport.Document

open Json

/-- The text spells the document: it writes one of the trees of the document. -/
def IsSpelling (d : Document) (text : String) : Prop := ∃ t, d.Arranged t ∧ Written t text.toList

/-- The text that is written for a document is one of its spellings. -/
theorem isSpelling_render (d : Document) : d.IsSpelling d.render := by
  refine ⟨d.toJson.tree, d.arranged_toJson, ?_⟩
  rw [render, Json.render, String.toList_ofList]
  exact written_chars d.isWritable_toJson .compact 0

/-- **A document whose computed numbers are finite and whose nodes are nested at most 62 deep is read
from each of its spellings**, the text that is written for it among them. -/
theorem parse_of_isSpelling {d : Document} (h : d.IsReadable) :
    d.IsSpelling d.render ∧ ∀ text, d.IsSpelling text → parse text = .ok d := by
  refine ⟨d.isSpelling_render, ?_⟩
  rintro text ⟨t, ht, hwritten⟩
  rw [parse, decode_of_written read hwritten, read_of_arranged h ht]

/-! ## A spelling -/

/-- A document with one page. -/
def onePage : Document := { roots := [.page "p"] }

/-- A text of it with the keys of the page in another order, a tag that is `null`, no descriptors,
and a key that is no field, with a number beyond all doubles and half of a surrogate pair in its
value. -/
def onePageText : String :=
  "\x7b \"v\": [[1e999,\"\\ud800\"]],\n" ++
    " \"roots\": [\x7b\"tag\":null,\"kind\":\"page\",\"id\":\"p\"\x7d]\x7d"

/-- Half of a surrogate pair. -/
def halfPair : Quoted := ⟨[.lead ⟨0, by decide⟩], none⟩

/-- The value of the key that is no field. -/
def oddValue : Tree :=
  .array [.array [.number "1e999".toList, .string halfPair] .closed] .closed

/-- The members of the page in the text. -/
def pageTexts : List MemberText :=
  [⟨.ofString "tag", "\"tag\"".toList, .null, "null".toList⟩,
   ⟨.ofString "kind", "\"kind\"".toList, .string (.ofString "page"), "\"page\"".toList⟩,
   ⟨.ofString "id", "\"id\"".toList, .string (.ofString "p"), "\"p\"".toList⟩]

/-- The page in the text. -/
def pageTree : Tree := .object (pageTexts.map MemberText.member) .closed

/-- The members of the document in the text. -/
def onePageTexts : List MemberText :=
  [⟨.ofString "v", " \"v\"".toList, oddValue, " [[1e999,\"\\ud800\"]]".toList⟩,
   ⟨.ofString "roots", "\n \"roots\"".toList, .array [pageTree] .closed,
    " [\x7b\"tag\":null,\"kind\":\"page\",\"id\":\"p\"\x7d]".toList⟩]

theorem isReadable_onePage : onePage.IsReadable := by
  refine onePage.isReadable_iff.2 (List.forall_mem_singleton.2 ?_)
  refine (Node.fits_iff _ _ _).2 ⟨by decide, ?_, List.forall_mem_nil _⟩
  exact (Node.hasFiniteNumbers_iff _).2 (List.forall_mem_nil _)

theorem written_oddValue : Written oddValue "[[1e999,\"\\ud800\"]]".toList := by
  have hnumber : Written (.number "1e999".toList) "1e999".toList :=
    .number ⟨false, "1e999".toList, .powerDigits, rfl, rfl, rfl⟩
  have hpiece : PieceText (.lead ⟨0, by decide⟩) "\\ud800".toList :=
    @PieceText.hex 'd' '8' '0' '0' 13 8 0 0 rfl rfl rfl rfl
  have hstring : Written (.string halfPair) "\"\\ud800\"".toList :=
    .string (.quoted (.cons hpiece .nil))
  have hinner := @Written.array [(_, _), (_, _)] []
    (List.forall_mem_cons.2 ⟨hnumber, List.forall_mem_singleton.2 hstring⟩) (by decide)
  exact @Written.array [(_, _)] [] (List.forall_mem_singleton.2 hinner) (by decide)

/-- A key of a member, behind some blanks. -/
theorem keyText_behind {space : List Char} (hspace : AreBlanks space) (s : String) :
    KeyText (.ofString s) (space ++ stringChars s) := .behind hspace (stringText_stringChars s)

theorem written_pageTree :
    Written pageTree "\x7b\"tag\":null,\"kind\":\"page\",\"id\":\"p\"\x7d".toList := by
  have hkey := keyText_behind (List.forall_mem_nil _)
  refine @Written.object pageTexts [] ?_ ?_ (by decide)
  · simp only [pageTexts, List.forall_mem_cons]
    exact ⟨hkey "tag", hkey "kind", hkey "id", List.forall_mem_nil _⟩
  · simp only [pageTexts, List.forall_mem_cons]
    exact ⟨.null, .string (stringText_stringChars "page"), .string (stringText_stringChars "p"),
      List.forall_mem_nil _⟩

theorem arranged_pageTree : (Node.page "p").Arranged pageTree := by
  have hkept : Keeps ((Node.page "p").own [])
      [("id", .string (.ofString "p")), ("kind", .string (.ofString "page")), ("tag", .null)] :=
    .kept _ <| .kept _ <| .kept _ <| .omitted rfl <| .omitted rfl <| .omitted rfl <|
      .omitted rfl <| .omitted rfl .done
  exact .object .nil (hkept.isArrangement.perm (List.reverse_perm _).symm)

theorem isSpelling_onePageText : onePage.IsSpelling onePageText := by
  refine ⟨.object (onePageTexts.map MemberText.member) .closed, ?_, ?_⟩
  · have hkept : Keeps (onePage.own [pageTree] []) [("roots", .array [pageTree] .closed)] :=
      .kept _ <| .omitted rfl .done
    have hforeign : IsForeign ["roots", "descriptors"] (.ofString "v", oddValue) :=
      ⟨⟨"v", Quoted.text_ofString "v", by decide⟩, _, written_oddValue⟩
    exact .object (.cons arranged_pageTree .nil) .nil (hkept.isArrangement.cons hforeign)
  · have hspace : AreBlanks [' '] := by decide
    have hroots := @Written.array [(_, _)] [] (List.forall_mem_singleton.2 written_pageTree)
      (by decide)
    refine @Written.object onePageTexts [] ?_ ?_ (by decide)
    · simp only [onePageTexts, List.forall_mem_cons]
      exact ⟨keyText_behind hspace "v", @keyText_behind ['\n', ' '] (by decide) "roots",
        List.forall_mem_nil _⟩
    · simp only [onePageTexts, List.forall_mem_cons]
      exact ⟨.behind hspace written_oddValue, .behind hspace hroots, List.forall_mem_nil _⟩

/-- The text is read as the document with one page. -/
theorem parse_onePageText :
    onePage.IsReadable ∧ onePage.IsSpelling onePageText ∧ parse onePageText = .ok onePage :=
  ⟨isReadable_onePage, isSpelling_onePageText,
    (parse_of_isSpelling isReadable_onePage).2 onePageText isSpelling_onePageText⟩

end CanvasExport.Document
