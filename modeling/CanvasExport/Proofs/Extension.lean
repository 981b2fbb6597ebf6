import CanvasExport.Proofs.Fault
/-!
# Registries with more descriptors

A registry extends another one when it has all descriptors of it; merging extends
(`Registry.extends_merge`).  An export that succeeds is the same export against an extended registry
(`Document.exportPages_eq_of_extends`), and the faults that are left there are the same faults in the
same order, without those of the tags that have a descriptor by then
(`Document.faults_eq_filter_of_extends`).
-/

namespace CanvasExport

namespace Registry

/-! ## Extended registries -/

/-- Every descriptor of the one is the descriptor of its tag in the other. -/
def Extends (a c : Registry) : Prop := ∀ tag d, a.get? tag = some d → c.get? tag = some d

/-- Merging keeps the descriptors that are there. -/
theorem extends_merge (a b : Registry) : a.Extends (a.merge b) := by
  intro tag d h
  rw [get?_merge, h, Option.some_or]

/-- A node keeps its descriptor. -/
theorem Extends.descriptorOf? {a c : Registry} (h : a.Extends c) {n : Node} {d : Descriptor}
    (hd : a.descriptorOf? n = some d) : c.descriptorOf? n = some d := by
  obtain ⟨tag, htag, hget⟩ := Option.bind_eq_some_iff.1 hd
  exact Option.bind_eq_some_iff.2 ⟨tag, htag, h tag d hget⟩

/-- Whether an error is none with the registry, since it has a descriptor of the tag. -/
def mends (r : Registry) : ExportError → Bool
  | .malformedGridTemplate .. => false
  | .schemaMissing _ tag => (tag.bind r.get?).isSome

/-- Whether a step is a fault that is none with the registry. -/
def mendsStep (r : Registry) : Walk.Step → Bool
  | .request _ => false
  | .fault e => r.mends e

end Registry

/-! ## Faults -/

/-- The faults among the steps that are not mended are the faults that are not mended. -/
theorem Walk.faultsIn_filter_mendsStep (r : Registry) (steps : List Walk.Step) :
    Walk.faultsIn (steps.filter (!r.mendsStep ·)) = (Walk.faultsIn steps).filter (!r.mends ·) := by
  rw [faultsIn, faultsIn, List.filterMap_filter, List.filter_filterMap]
  refine List.filterMap_congr fun s _ => ?_
  cases s with
  | request q => rfl
  | fault e => rfl

namespace Node

variable {a c : Registry}

theorem filter_placementSteps (c : Registry) (layout : LayoutKind) (n : Node) :
    (n.placementSteps layout).filter (!c.mendsStep ·) = n.placementSteps layout := by
  cases layout <;> rfl

theorem filter_templateSteps (c : Registry) (layout : LayoutKind) (n : Node) :
    (n.templateSteps layout).filter (!c.mendsStep ·) = n.templateSteps layout := by
  have hstep (axis : Axis) : c.mendsStep (n.templateStep axis) = false := by
    unfold templateStep
    cases n.cellSize? axis <;> rfl
  cases layout with
  | free => rfl
  | flex => rfl
  | grid => simp [templateSteps, hstep]

/-- A component that has got its descriptor by then is no fault any more. -/
theorem componentSteps_of_extends (h : a.Extends c) (layout : LayoutKind) (n : Node) :
    n.componentSteps c layout = (n.componentSteps a layout).filter (!c.mendsStep ·) := by
  have hplacement := filter_placementSteps c layout n
  unfold componentSteps
  cases ha : a.descriptorOf? n with
  | some d =>
      rw [h.descriptorOf? ha]
      exact hplacement.symm
  | none =>
      have hmends : c.mendsStep (.fault (.schemaMissing n.id n.tag)) =
          (c.descriptorOf? n).isSome := rfl
      dsimp only
      rw [List.filter_cons, hmends, hplacement]
      cases c.descriptorOf? n <;> rfl

theorem containerSteps_of_extends (h : a.Extends c) (n : Node) :
    n.containerSteps c = (n.containerSteps a).filter (!c.mendsStep ·) := by
  have hcomponents (layout : LayoutKind) : componentSteps c layout =
      fun n => (n.componentSteps a layout).filter (!c.mendsStep ·) := by
    funext n
    exact componentSteps_of_extends h layout n
  rw [containerSteps, containerSteps, List.filter_cons_of_pos rfl, List.filter_append,
    filter_templateSteps, List.filter_flatMap, hcomponents]

theorem pageSteps_of_extends (h : a.Extends c) (n : Node) :
    n.pageSteps c = (n.pageSteps a).filter (!c.mendsStep ·) := by
  have hcontainers :
      containerSteps c = fun n => (n.containerSteps a).filter (!c.mendsStep ·) := by
    funext n
    exact containerSteps_of_extends h n
  rw [pageSteps, pageSteps, List.filter_cons_of_pos rfl, List.filter_cons_of_pos rfl,
    List.filter_flatMap, hcontainers]

end Node

/-- **The faults that are left.**  Against an extended registry a document has the same faults in the
same order, without those of components that have a descriptor by then. -/
theorem Document.faults_eq_filter_of_extends {a c : Registry} (h : a.Extends c) (d : Document) :
    d.faults c = (d.faults a).filter (!c.mends ·) := by
  have hpages : Node.pageSteps c = fun n => (n.pageSteps a).filter (!c.mendsStep ·) := by
    funext n
    exact n.pageSteps_of_extends h
  rw [faults, faults, ← Walk.faultsIn_filter_mendsStep, steps, steps, List.filter_flatMap, hpages]

/-! ## Exports that succeed -/

namespace Walk

variable {α β : Type}

/-- The walk is also the other one if it succeeds. -/
def KeptBy (w w' : Walk α) : Prop := ∀ a, w.outcome = .ok a → w' = w

namespace KeptBy

variable {w w' : Walk α}

theorem refl (w : Walk α) : w.KeptBy w := fun _ _ => rfl

/-- A walk that fails need not be kept. -/
theorem fail (e : ExportError) (w' : Walk α) : (Walk.fail e).KeptBy w' := fun _ h => nomatch h

theorem bind {next next' : α → Walk β} (h : w.KeptBy w') (hnext : ∀ a, (next a).KeptBy (next' a)) :
    (w >>= next).KeptBy (w' >>= next') := by
  intro b hb
  obtain ⟨a, hw, ha⟩ := outcome_bind_eq_ok_iff.1 hb
  rw [h a hw, bind_of_ok hw, bind_of_ok hw, hnext a b ha]

theorem forEach {visit visit' : α → Walk β} (h : ∀ a, (visit a).KeptBy (visit' a)) (as : List α) :
    (Walk.forEach visit as).KeptBy (Walk.forEach visit' as) := by
  induction as with
  | nil => exact refl _
  | cons a as ih =>
      rw [forEach_cons, forEach_cons]
      exact (h a).bind fun b => ih.bind fun bs => refl _

end KeptBy

end Walk

section

variable {a c : Registry} (h : a.Extends c)
include h

theorem Component.ofNode_keptBy (layout : LayoutKind) (n : Node) :
    (ofNode a layout n).KeptBy (ofNode c layout n) := by
  unfold ofNode
  cases ha : a.descriptorOf? n with
  | none => exact .fail _ _
  | some d =>
      rw [h.descriptorOf? ha]
      exact .refl _

theorem Layout.ofNode_keptBy (n : Node) : (ofNode a n).KeptBy (ofNode c n) := by
  have hcomponents := Walk.KeptBy.forEach (Component.ofNode_keptBy h (LayoutKind.ofNode n))
    (n.childrenMarked Marker.component)
  refine .bind (.refl _) fun height => ?_
  refine .bind (.refl _) fun templates => ?_
  exact hcomponents.bind fun components => .refl _

theorem Page.ofNode_keptBy (title : String) (n : Node) :
    (ofNode a title n).KeptBy (ofNode c title n) := by
  have hlayouts := Walk.KeptBy.forEach (Layout.ofNode_keptBy h) (n.childrenMarked Marker.container)
  refine .bind (.refl _) fun width => ?_
  refine .bind (.refl _) fun background => ?_
  exact hlayouts.bind fun layouts => .refl _

/-- **A successful export is kept.**  Against an extended registry it makes the same requests and has
the same pages. -/
theorem Document.exportPages_eq_of_extends {d : Document} {title : String} {pages : List Page}
    (hok : (d.exportPages a title).outcome = .ok pages) :
    d.exportPages c title = d.exportPages a title :=
  Walk.KeptBy.forEach (Page.ofNode_keptBy h title) d.pages pages hok

/-- So its artifact and the tokens after it are kept. -/
theorem Document.exportWith_eq_of_extends {d : Document} {settings : Settings} {tokens : Tokens}
    {artifact : Artifact} (hok : (d.exportWith settings a tokens).1 = .ok artifact) :
    d.exportWith settings c tokens = d.exportWith settings a tokens := by
  obtain ⟨pages, hpages, -⟩ := exportWith_fst_eq_ok_iff.1 hok
  rw [exportWith, exportWith, exportPages_eq_of_extends h hpages]

/-- **The first fault that is left.**  Where an export fails against both registries, it fails against
the extended one with the first fault of the other that is not mended. -/
theorem Document.exists_faults_eq_append_of_extends {d : Document} {title : String}
    {e e' : ExportError} (he : (d.exportPages a title).outcome = .error e)
    (he' : (d.exportPages c title).outcome = .error e') :
    ∃ before after, d.faults a = before ++ e' :: after ∧ (before ++ [e']).head? = some e := by
  have hfirst : (d.faults a).head? = some e := by
    rw [faults, ← (d.follows_exportPages a title).error, Walk.outcome_eq_error_iff.1 he]
  have hfirst' : (d.faults c).head? = some e' := by
    rw [faults, ← (d.follows_exportPages c title).error, Walk.outcome_eq_error_iff.1 he']
  rw [faults_eq_filter_of_extends h, List.head?_filter, List.find?_eq_some_iff_append] at hfirst'
  obtain ⟨-, before, after, hsplit, -⟩ := hfirst'
  refine ⟨before, after, hsplit, ?_⟩
  rw [hsplit, List.head?_append] at hfirst
  rw [List.head?_append]
  exact hfirst

end

end CanvasExport
