import CanvasExport.Proofs.Footprint
import CanvasExport.Proofs.Representation
/-!
# Custom colors of pages

A page whose background the palette lacks has the class of that background.  Its color is looked up by
a key, the background without a leading `#`, and the key stands for the first background in page order
that has it (`Document.definesBackgrounds_of_exportFresh_eq_ok`).  So the class tells a color that the
artifact does not have where an earlier page has the same background up to the `#`
(`Document.not_defined_of_clashing`).
-/

namespace CanvasExport

/-- The background of a page, as it is looked up, if the palette lacks it. -/
def Node.customBackground? (p : Node) : Option String :=
  if Palette.builtin? (Palette.normal p.backgroundColor) = none then
    some (Palette.normal p.backgroundColor)
  else none

/-- The backgrounds of the pages that the palette lacks, in page order. -/
def Document.customBackgrounds (d : Document) : List String :=
  d.outermostPages.filterMap Node.customBackground?

theorem Node.customBackground?_eq_some_iff {p : Node} {color : String} :
    p.customBackground? = some color ↔
      Palette.builtin? (Palette.normal p.backgroundColor) = none ∧
        Palette.normal p.backgroundColor = color := by
  unfold customBackground?
  split_ifs with h <;> simp [h]

/-- A page whose background the palette lacks has the class of that background.  The key of the
background stands for a background with that key, and for the background itself exactly when no other
one with the key comes in front of it. -/
def Artifact.DefinesBackgrounds (d : Document) (a : Artifact) : Prop :=
  List.Forall₂ (fun p page => ∀ color, p.customBackground? = some color →
      page.classes[1]? = some ("bg-" ++ color) ∧
      (∃ c ∈ d.customBackgrounds, Palette.key c = Palette.key color ∧
        a.tokens.colors.get? (Palette.key color) = some c) ∧
      (a.tokens.colors.get? (Palette.key color) = some color ↔
        ∃ before after, d.customBackgrounds = before ++ color :: after ∧
          ∀ c ∈ before, Palette.key c ≠ Palette.key color))
    d.outermostPages a.pages

/-- The pages bring in the backgrounds that the palette lacks. -/
theorem Document.filter_backgrounds_eq (d : Document) :
    ((d.outermostPages.map Node.backgroundColor).map Palette.normal).filter
      (fun c => (Palette.builtin? c).isNone) = d.customBackgrounds := by
  rw [customBackgrounds, List.map_map, ← List.filterMap_eq_filter, List.filterMap_map]
  refine List.filterMap_congr fun p _ => ?_
  simp [Node.customBackground?, Option.guard]

/-- A key stands for the first background that has it. -/
theorem Document.colors_get?_of_exportFresh_eq_ok {d : Document} {settings : Settings}
    {registry : Registry} {a : Artifact} (h : d.exportFresh settings registry = .ok a)
    (key : String) :
    a.tokens.colors.get? key = d.customBackgrounds.find? fun c => Palette.key c == key := by
  obtain ⟨pages, hpages, rfl⟩ := exportFresh_eq_ok_iff.1 h
  rw [(d.follows_exportPages registry settings.pageTitle).requests_of_ok hpages]
  show ((Tokens.registerAll {} (d.requests registry)).dict .colors).get? key = _
  rw [Tokens.get?_registerAll_empty, colors_definitions_requests,
    Palette.lookup_filterMap_definition?, filter_backgrounds_eq]

/-- The class of a background that the palette lacks tells it. -/
theorem Page.background_class_of_ok {registry : Registry} {title : String} {n : Node} {page : Page}
    (h : (ofNode registry title n).outcome = .ok page) {color : String}
    (hcolor : n.customBackground? = some color) : page.classes[1]? = some ("bg-" ++ color) := by
  obtain ⟨hbuiltin, hnormal⟩ := Node.customBackground?_eq_some_iff.1 hcolor
  rw [(represents_of_ok h).classes, Palette.token, hbuiltin, hnormal]
  rfl

/-- **The colors of the pages.**  A fresh export that succeeds defines the backgrounds of the pages, of
those with the same key the first one. -/
theorem Document.definesBackgrounds_of_exportFresh_eq_ok {d : Document} {settings : Settings}
    {registry : Registry} {a : Artifact} (h : d.exportFresh settings registry = .ok a) :
    a.DefinesBackgrounds d := by
  have hcolors := colors_get?_of_exportFresh_eq_ok h
  obtain ⟨pages, hpages, rfl⟩ := exportFresh_eq_ok_iff.1 h
  rw [exportPages, Walk.outcome_forEach_eq_ok_iff, pages_eq_outermostPages] at hpages
  have hmem := List.forall₂_iff_zip.1 hpages
  refine List.forall₂_iff_zip.2 ⟨hmem.1, fun {p page} hzip color hcolor => ?_⟩
  refine ⟨Page.background_class_of_ok (hmem.2 hzip) hcolor, ?_, ?_⟩
  · have hlisted : color ∈ d.customBackgrounds :=
      List.mem_filterMap.2 ⟨p, (List.of_mem_zip hzip).1, hcolor⟩
    -- the background itself has the key, so there is a first one
    have hsome : (d.customBackgrounds.find? fun c => Palette.key c == Palette.key color).isSome :=
      List.find?_isSome.2 ⟨color, hlisted, beq_self_eq_true _⟩
    obtain ⟨c, hc⟩ := Option.isSome_iff_exists.1 hsome
    exact ⟨c, List.mem_of_find?_eq_some hc, by simpa using List.find?_some hc,
      (hcolors _).trans hc⟩
  · rw [hcolors, List.find?_eq_some_iff_append]
    simp

/-- The sample is exported, and its background is defined. -/
theorem Document.definesBackgrounds_sample :
    ∃ a, sample.exportFresh {} .launch = .ok a ∧ a.DefinesBackgrounds sample := by
  obtain ⟨a, ha⟩ := exists_exportFresh_sample
  exact ⟨a, ha, definesBackgrounds_of_exportFresh_eq_ok ha⟩

/-! ## Backgrounds that clash -/

/-- Two pages whose backgrounds differ in the `#` only. -/
def Document.clashing : Document where
  roots :=
    [(Node.page "first").withComputed "background-color" (.text "abcdef"),
     (Node.page "second").withComputed "background-color" (.text "#abcdef")]

/-- The second page has the class of its background, but the key of the background stands for that of
the first page. -/
theorem Document.not_defined_of_clashing :
    ∃ a, clashing.exportFresh {} .empty = .ok a ∧
      clashing.outermostPages.map Node.customBackground? = [some "abcdef", some "#abcdef"] ∧
      a.pages.map (·.classes[1]?) = [some "bg-abcdef", some "bg-#abcdef"] ∧
      a.tokens.colors.get? (Palette.key "#abcdef") = some "abcdef" := by
  have hexport : (clashing.exportFresh {} .empty).toOption.map (fun a =>
      (a.pages.map (·.classes[1]?), a.tokens.colors.get? (Palette.key "#abcdef"))) =
        some ([some "bg-abcdef", some "bg-#abcdef"], some "abcdef") := by decide +kernel
  cases h : clashing.exportFresh {} .empty with
  | error e =>
      rw [h] at hexport
      cases hexport
  | ok a =>
      rw [h] at hexport
      obtain ⟨hclasses, hcolor⟩ := Prod.mk.inj (Option.some.inj hexport)
      exact ⟨a, rfl, by decide +kernel, hclasses, hcolor⟩

end CanvasExport
