import CanvasExport.Proofs.Resolver
import CanvasExport.Proofs.Walk
/-!
# Exports and the tokens that are there

An export fails with the error at which its walk stops, and else it has the pages of the walk and the
tokens after it.  The tokens that are there beforehand decide neither the error nor the pages: an
export that goes on from them agrees with a fresh one, and its tokens are those that were there with
those of the fresh export filled in (`Document.exportWith_eq_fresh_up_to_tokens`).
-/

namespace CanvasExport.Document

variable {d : Document} {settings : Settings} {registry : Registry}

/-! ## Outcomes -/

/-- An export fails where its walk does, and leaves the tokens alone. -/
theorem exportWith_of_error {e : ExportError}
    (h : (d.exportPages registry settings.pageTitle).outcome = .error e) (tokens : Tokens) :
    d.exportWith settings registry tokens = (.error e, tokens) := by
  simp only [exportWith, h]

/-- An export has the pages of its walk and the tokens after it. -/
theorem exportWith_of_ok {pages : List Page}
    (h : (d.exportPages registry settings.pageTitle).outcome = .ok pages) (tokens : Tokens) :
    d.exportWith settings registry tokens =
      (.ok ⟨settings.framework, settings.componentsLibrary, pages,
          (d.exportPages registry settings.pageTitle).tokensAfter tokens⟩,
        (d.exportPages registry settings.pageTitle).tokensAfter tokens) := by
  simp only [exportWith, h]

/-- A fresh export fails with the error at which its walk stops. -/
theorem exportFresh_eq_error_iff {e : ExportError} :
    d.exportFresh settings registry = .error e ↔
      (d.exportPages registry settings.pageTitle).error? = some e := by
  rw [← Walk.outcome_eq_error_iff, exportFresh]
  cases h : (d.exportPages registry settings.pageTitle).outcome with
  | error e' => simp [exportWith_of_error h]
  | ok pages => simp [exportWith_of_ok h]

/-- An export succeeds where its walk does, with the pages of it and the tokens after it. -/
theorem exportWith_fst_eq_ok_iff {tokens : Tokens} {a : Artifact} :
    (d.exportWith settings registry tokens).1 = .ok a ↔
      ∃ pages, (d.exportPages registry settings.pageTitle).outcome = .ok pages ∧
        a = ⟨settings.framework, settings.componentsLibrary, pages,
          (d.exportPages registry settings.pageTitle).tokensAfter tokens⟩ := by
  cases h : (d.exportPages registry settings.pageTitle).outcome with
  | error e => simp [exportWith_of_error h]
  | ok pages =>
      rw [exportWith_of_ok h]
      simp [eq_comm]

/-- A fresh export has the pages of its walk, and the tokens that the walk requests. -/
theorem exportFresh_eq_ok_iff {a : Artifact} :
    d.exportFresh settings registry = .ok a ↔
      ∃ pages, (d.exportPages registry settings.pageTitle).outcome = .ok pages ∧
        a = ⟨settings.framework, settings.componentsLibrary, pages,
          Tokens.registerAll {} (d.exportPages registry settings.pageTitle).requests⟩ :=
  exportWith_fst_eq_ok_iff

/-- A page in a shell, with a grid and a free container, whose component has a descriptor; a page in
the page is left out. -/
def sample : Document where
  roots :=
    [(Node.layout "shell").withChild
      ((Node.page "page").withComputed "width" (.text "100px")
        |>.withComputed "background-color" (.text "#ABCDEF")
        |>.withChild ((Node.layout "cards").withMarker Marker.grid
          |>.withInline "grid-template-columns" "repeat(auto-fill, 120px)"
          |>.withInline "grid-template-rows" "repeat(auto-fill, 40.5px)")
        |>.withChild (Node.page "inner")
        |>.withChild ((Node.layout "board").withMarker Marker.free
          |>.withChild
            ((Node.component "tabs" "launch-tabs").withComputed "top" (.text "30px"))))]

/-- The sample is exported. -/
theorem exists_exportFresh_sample : ∃ a, sample.exportFresh {} .launch = .ok a := by
  have hok : (sample.exportFresh {} .launch).toOption.isSome = true := by decide +kernel
  cases h : sample.exportFresh {} .launch with
  | error e =>
      rw [h] at hok
      cases hok
  | ok a => exact ⟨a, rfl⟩

/-! ## Reuse of tokens -/

/-- **Tokens that are there change nothing but the tokens.**  An export on tokens, which is the
export that looks each name up among them, fails with the error of the fresh export and leaves them
alone, or it has the pages of the fresh export, and a name of its tokens stands for what it stood for
before and else for what it stands for after the fresh export.  Exporting once more changes
nothing. -/
theorem exportWith_eq_fresh_up_to_tokens (d : Document) (settings : Settings) (registry : Registry)
    (tokens : Tokens) :
    d.exportWith settings registry tokens = d.exportResolving settings registry tokens ∧
    ((∃ e, d.exportFresh settings registry = .error e ∧
        d.exportWith settings registry tokens = (.error e, tokens)) ∨
      ∃ fresh artifact, d.exportFresh settings registry = .ok fresh ∧
        d.exportWith settings registry tokens = (.ok artifact, artifact.tokens) ∧
        artifact.framework = fresh.framework ∧
        artifact.componentsLibrary = fresh.componentsLibrary ∧
        artifact.pages = fresh.pages ∧
        (∀ family name, (artifact.tokens.dict family).get? name =
          ((tokens.dict family).get? name).or ((fresh.tokens.dict family).get? name)) ∧
        d.exportWith settings registry artifact.tokens = (.ok artifact, artifact.tokens)) := by
  refine ⟨exportWith_eq_exportResolving d settings registry tokens, ?_⟩
  cases h : (d.exportPages registry settings.pageTitle).outcome with
  | error e =>
      left
      exact ⟨e, exportFresh_eq_error_iff.2 (Walk.outcome_eq_error_iff.1 h),
        exportWith_of_error h tokens⟩
  | ok pages =>
      right
      -- the second export requests the same once more
      have htwice : (d.exportPages registry settings.pageTitle).tokensAfter
            ((d.exportPages registry settings.pageTitle).tokensAfter tokens) =
          (d.exportPages registry settings.pageTitle).tokensAfter tokens :=
        Tokens.registerAll_registerAll tokens _
      refine ⟨_, _, exportFresh_eq_ok_iff.2 ⟨pages, h, rfl⟩, exportWith_of_ok h tokens, rfl, rfl,
        rfl, ?_, ?_⟩
      · intro family name
        exact Tokens.get?_registerAll_eq_or_get?_fresh tokens _ family name
      · rw [exportWith_of_ok h, htwice]

end CanvasExport.Document
