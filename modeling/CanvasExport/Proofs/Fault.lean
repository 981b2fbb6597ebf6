import CanvasExport.Proofs.Export
import CanvasExport.Proofs.Steps
/-!
# Faults of a document

A document has a fault where a grid lacks a template along an axis or a component lacks a descriptor.
An export fails exactly with the first fault in the order of its walk
(`Document.exportFresh_fails_at_first_fault`).
-/

namespace CanvasExport

/-! ## Faults -/

/-- The error tells a fault of the document: in a container that is a child of a page, a template
that is missing or gives no cell size if the container is a grid, or a component whose tag is missing
or not registered. -/
inductive Document.HasFault (registry : Registry) (d : Document) : ExportError → Prop
  | template {p c : Node} {axis : Axis} (hp : p ∈ d.outermostPages)
      (hc : c ∈ p.childrenMarked Marker.container) (hgrid : LayoutKind.ofNode c = .grid)
      (hcell : ∀ template, c.inline? axis.property = some template →
        GridTemplate.cell? template = none) :
      HasFault registry d (.malformedGridTemplate c.id axis (c.inline? axis.property))
  | schema {p c n : Node} (hp : p ∈ d.outermostPages)
      (hc : c ∈ p.childrenMarked Marker.container) (hn : n ∈ c.childrenMarked Marker.component)
      (htag : ∀ tag, n.tag = some tag → ∀ known ∈ registry.descriptors, known.tag ≠ tag) :
      HasFault registry d (.schemaMissing n.id n.tag)

/-- A node has no descriptor when its tag is missing or not registered. -/
theorem Registry.descriptorOf?_eq_none_iff {r : Registry} {n : Node} :
    r.descriptorOf? n = none ↔
      ∀ tag, n.tag = some tag → ∀ known ∈ r.descriptors, known.tag ≠ tag := by
  simp only [descriptorOf?, get?, Option.bind_eq_none_iff, List.find?_eq_none, beq_iff_eq, ne_eq]

/-! ## Faults among the steps -/

theorem Node.fault_eq_templateStep_iff {n : Node} {axis : Axis} {e : ExportError} :
    .fault e = n.templateStep axis ↔
      (∀ template, n.inline? axis.property = some template →
        GridTemplate.cell? template = none) ∧
      e = .malformedGridTemplate n.id axis (n.inline? axis.property) := by
  rw [← Option.bind_eq_none_iff, ← cellSize?, templateStep]
  cases n.cellSize? axis <;> simp

theorem Node.fault_mem_templateSteps {n : Node} {layout : LayoutKind} {e : ExportError} :
    .fault e ∈ n.templateSteps layout ↔
      layout = .grid ∧ ∃ axis, .fault e = n.templateStep axis := by
  cases layout with
  | free => simp [templateSteps]
  | flex => simp [templateSteps]
  | grid =>
      rw [templateSteps, List.mem_cons, List.mem_singleton]
      constructor
      · rintro (h | h)
        · exact ⟨rfl, .columns, h⟩
        · exact ⟨rfl, .rows, h⟩
      · rintro ⟨-, axis, h⟩
        cases axis with
        | columns => exact .inl h
        | rows => exact .inr h

theorem Node.fault_mem_componentSteps {registry : Registry} {layout : LayoutKind} {n : Node}
    {e : ExportError} :
    .fault e ∈ n.componentSteps registry layout ↔
      (∀ tag, n.tag = some tag → ∀ known ∈ registry.descriptors, known.tag ≠ tag) ∧
      e = .schemaMissing n.id n.tag := by
  have hplacement : .fault e ∉ n.placementSteps layout := by
    cases layout <;> simp [placementSteps]
  rw [← Registry.descriptorOf?_eq_none_iff, componentSteps]
  cases registry.descriptorOf? n <;> simp [hplacement]

/-- The faults among the steps are those that the document has. -/
theorem Document.mem_faults {d : Document} {registry : Registry} {e : ExportError} :
    e ∈ d.faults registry ↔ d.HasFault registry e := by
  simp only [faults, Walk.mem_faultsIn, mem_steps, reduceCtorEq, false_or,
    Node.fault_mem_templateSteps, Node.fault_eq_templateStep_iff, Node.fault_mem_componentSteps]
  constructor
  · rintro ⟨p, hp, c, hc, ⟨hgrid, axis, hcell, rfl⟩ | ⟨n, hn, htag, rfl⟩⟩
    · exact .template hp hc hgrid hcell
    · exact .schema hp hc hn htag
  · rintro (⟨hp, hc, hgrid, hcell⟩ | ⟨hp, hc, hn, htag⟩)
    · exact ⟨_, hp, _, hc, .inl ⟨hgrid, _, hcell, rfl⟩⟩
    · exact ⟨_, hp, _, hc, .inr ⟨_, hn, htag, rfl⟩⟩

/-- **An export fails at the first fault.**  A fresh export ends with an error exactly if that is the
first one in the list of faults, which has the faults of the document and nothing else; so it fails
exactly if there is a fault. -/
theorem Document.exportFresh_fails_at_first_fault (d : Document) (settings : Settings)
    (registry : Registry) :
    (∀ e, d.exportFresh settings registry = .error e ↔ (d.faults registry).head? = some e) ∧
    (∀ e, e ∈ d.faults registry ↔ d.HasFault registry e) ∧
    ((∃ e, d.exportFresh settings registry = .error e) ↔ ∃ e, d.HasFault registry e) := by
  have hfirst (e : ExportError) :
      d.exportFresh settings registry = .error e ↔ (d.faults registry).head? = some e := by
    rw [exportFresh_eq_error_iff, (d.follows_exportPages registry settings.pageTitle).error, faults]
  refine ⟨hfirst, fun e => mem_faults, ?_⟩
  constructor
  · rintro ⟨e, he⟩
    exact ⟨e, mem_faults.1 (List.mem_of_mem_head? ((hfirst e).1 he))⟩
  · rintro ⟨e, he⟩
    cases hhead : (d.faults registry).head? with
    | none =>
        -- then there is no fault at all
        rw [← mem_faults, List.head?_eq_none_iff.1 hhead] at he
        cases he
    | some first => exact ⟨first, (hfirst first).2 hhead⟩

end CanvasExport
