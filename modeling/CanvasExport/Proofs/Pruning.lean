import CanvasExport.Proofs.Dict
import CanvasExport.Proofs.Export
import CanvasExport.Proofs.Pages
import CanvasExport.Proofs.Readings
/-!
# Pruned documents

A document is pruned when only its pages are left, in each page the containers and in each container
the components that are marked, and of each node what its export reads in that place: the ids, tags,
attributes and properties that nobody asks for are dropped, and the kinds that nobody asks for are
any.  Every document can be pruned, and the export stays the same (`Document.exportWith_pruned`).
-/

namespace CanvasExport

/-! ## Lists side by side -/

/-- What each member of a list hands to its partner all partners have. -/
theorem forall_mem_of_forall₂ {α β : Type} {R : α → β → Prop} {P : α → Prop} {Q : β → Prop}
    (hR : ∀ a b, R a b → P a → Q b) {as : List α} {bs : List β} (h : List.Forall₂ R as bs)
    (has : ∀ a ∈ as, P a) : ∀ b ∈ bs, Q b := by
  induction h with
  | nil => exact List.forall_mem_nil Q
  | cons hhead _ ih =>
      obtain ⟨hfirst, hrest⟩ := List.forall_mem_cons.1 has
      exact List.forall_mem_cons.2 ⟨hR _ _ hhead hfirst, ih hrest⟩

/-! ## What is asked for -/

/-- The attributes that are declared for a node. -/
def Registry.declaredNames (registry : Registry) (n : Node) : List String :=
  match registry.descriptorOf? n with
  | some d => d.parameters.map Parameter.name
  | none => []

/-- The inline properties with the templates of a layout; only a grid has any. -/
def LayoutKind.templateProperties : LayoutKind → List String
  | .grid => [Axis.columns.property, Axis.rows.property]
  | _ => []

/-- Each axis has its template among them. -/
theorem LayoutKind.property_mem_templateProperties (axis : Axis) :
    axis.property ∈ LayoutKind.templateProperties .grid := by
  cases axis <;> decide

namespace Node

/-! ## Pruning -/

/-- A component of a layout without its children, undeclared attributes and all properties that do not
place it in the layout. -/
def prunedComponent (registry : Registry) (layout : LayoutKind) (kind : NodeKind) (n : Node) : Node :=
  { n with
    kind
    attributes := n.attributes.restrict (registry.declaredNames n)
    computed := n.computed.restrict layout.placementProperties
    inlineStyle := .empty
    children := [] }

/-- A container without its tag and attributes and all properties apart from its height and the
templates of a grid, and with other children. -/
def prunedContainer (kind : NodeKind) (components : List Node) (n : Node) : Node :=
  { n with
    kind
    tag := none
    attributes := .empty
    computed := n.computed.restrict ["height"]
    inlineStyle := n.inlineStyle.restrict (LayoutKind.ofNode n).templateProperties
    children := components }

/-- A page without its id, tag and attributes and all properties apart from its width and background,
and with other children. -/
def prunedPage (containers : List Node) (n : Node) : Node :=
  { n with
    id := ""
    tag := none
    attributes := .empty
    computed := n.computed.restrict ["width", "background-color"]
    inlineStyle := .empty
    children := containers }

/-- The component is pruned to the other node, of any kind. -/
def PrunesToComponent (registry : Registry) (layout : LayoutKind) (n n' : Node) : Prop :=
  ∃ kind, n' = n.prunedComponent registry layout kind

/-- The container is pruned to the other node, of any kind: its components are left, and pruned. -/
def PrunesToContainer (registry : Registry) (n n' : Node) : Prop :=
  ∃ kind components,
    List.Forall₂ (PrunesToComponent registry (LayoutKind.ofNode n))
      (n.childrenMarked Marker.component) components ∧
    n' = n.prunedContainer kind components

/-- The page is pruned to the other node: its containers are left, and pruned. -/
def PrunesToPage (registry : Registry) (n n' : Node) : Prop :=
  ∃ containers,
    List.Forall₂ (PrunesToContainer registry) (n.childrenMarked Marker.container) containers ∧
    n' = n.prunedPage containers

/-! ## Pruned nodes are as good as the whole ones -/

/-- A property that is left has its value. -/
theorem computed?_of_restrict {n n' : Node} {properties : List String}
    (h : n'.computed = n.computed.restrict properties) {property : String}
    (hmem : property ∈ properties) : n'.computed? property = n.computed? property := by
  rw [computed?, computed?, h, Dict.get?_restrict_of_mem _ hmem]

/-- So it has its length. -/
theorem computedPixels?_of_restrict {n n' : Node} {properties : List String}
    (h : n'.computed = n.computed.restrict properties) {property : String}
    (hmem : property ∈ properties) : n'.computedPixels? property = n.computedPixels? property := by
  rw [computedPixels?, computedPixels?, computed?_of_restrict h hmem]

/-- A pruned component is the same component. -/
theorem PrunesToComponent.agree {registry : Registry} {layout : LayoutKind} {n n' : Node}
    (h : n.PrunesToComponent registry layout n') : n.AgreeAsComponent registry layout n' := by
  obtain ⟨kind, rfl⟩ := h
  constructor
  case id => rfl
  case tag => rfl
  case attributes =>
    intro d hd p hp
    have hdeclared : p.name ∈ registry.declaredNames n := by
      rw [Registry.declaredNames, hd]
      exact List.mem_map_of_mem hp
    exact Dict.get?_restrict_of_mem _ hdeclared
  case offsets =>
    rintro rfl property hproperty
    exact computedPixels?_of_restrict rfl hproperty
  case lines =>
    rintro rfl property hproperty
    have hvalue : (n.prunedComponent registry .grid kind).computed? property =
        n.computed? property := computed?_of_restrict rfl hproperty
    rw [computedText?, computedText?, hvalue]

/-- A pruned component is marked as before. -/
theorem PrunesToComponent.markers_eq {registry : Registry} {layout : LayoutKind} {n n' : Node}
    (h : n.PrunesToComponent registry layout n') : n'.markers = n.markers := by
  obtain ⟨kind, rfl⟩ := h
  rfl

/-- A pruned container is marked as before. -/
theorem PrunesToContainer.markers_eq {registry : Registry} {n n' : Node}
    (h : n.PrunesToContainer registry n') : n'.markers = n.markers := by
  obtain ⟨kind, components, -, rfl⟩ := h
  rfl

/-- Children that keep their markers are all marked as before. -/
theorem filter_hasMarker_eq_self {R : Node → Node → Prop}
    (hR : ∀ c c', R c c' → c'.markers = c.markers) {n : Node} {marker : String} {children : List Node}
    (h : List.Forall₂ R (n.childrenMarked marker) children) :
    children.filter (·.hasMarker marker) = children := by
  rw [List.filter_eq_self]
  refine forall_mem_of_forall₂ ?_ h fun c hc => (List.mem_filter.1 hc).2
  intro c c' hc hmarked
  rw [hasMarker_congr (hR c c' hc)]
  exact hmarked

/-- A pruned container is the same container. -/
theorem PrunesToContainer.agree {registry : Registry} {n n' : Node}
    (h : n.PrunesToContainer registry n') : n.AgreeAsContainer registry n' := by
  obtain ⟨kind, components, hcomponents, rfl⟩ := h
  constructor
  case id => rfl
  case markers => rfl
  case height => exact computedPixels?_of_restrict rfl List.mem_cons_self
  case templates =>
    intro hgrid axis
    refine Dict.get?_restrict_of_mem _ ?_
    rw [hgrid]
    exact LayoutKind.property_mem_templateProperties axis
  case components =>
    have hmarked : (n.prunedContainer kind components).childrenMarked Marker.component =
        components := filter_hasMarker_eq_self (fun _ _ hc => hc.markers_eq) hcomponents
    rw [hmarked]
    exact hcomponents.imp fun _ _ hc => hc.agree

/-- A pruned page is the same page. -/
theorem PrunesToPage.agree {registry : Registry} {n n' : Node} (h : n.PrunesToPage registry n') :
    n.AgreeAsPage registry n' := by
  obtain ⟨containers, hcontainers, rfl⟩ := h
  constructor
  case width => exact computedPixels?_of_restrict rfl List.mem_cons_self
  case background =>
    have hvalue : (n.prunedPage containers).computed? "background-color" =
        n.computed? "background-color" := computed?_of_restrict rfl (by decide)
    rw [backgroundColor, backgroundColor, computedColor?, computedColor?, computedText?,
      computedText?, hvalue]
  case containers =>
    have hmarked : (n.prunedPage containers).childrenMarked Marker.container = containers :=
      filter_hasMarker_eq_self (fun _ _ hc => hc.markers_eq) hcontainers
    rw [hmarked]
    exact hcontainers.imp fun _ _ hc => hc.agree

/-! ## Pruning without a change of kinds -/

/-- The container, pruned, with the kinds that it and its components have. -/
def pruneContainer (registry : Registry) (n : Node) : Node :=
  n.prunedContainer n.kind ((n.childrenMarked Marker.component).map fun c =>
    c.prunedComponent registry (LayoutKind.ofNode n) c.kind)

/-- The page, pruned, with the kinds that all nodes in it have. -/
def prunePage (registry : Registry) (n : Node) : Node :=
  n.prunedPage ((n.childrenMarked Marker.container).map (pruneContainer registry))

theorem prunesToContainer_pruneContainer (registry : Registry) (n : Node) :
    n.PrunesToContainer registry (n.pruneContainer registry) := by
  refine ⟨n.kind, _, ?_, rfl⟩
  rw [List.forall₂_map_right_iff, List.forall₂_same]
  exact fun c _ => ⟨c.kind, rfl⟩

theorem prunesToPage_prunePage (registry : Registry) (n : Node) :
    n.PrunesToPage registry (n.prunePage registry) := by
  refine ⟨_, ?_, rfl⟩
  rw [List.forall₂_map_right_iff, List.forall₂_same]
  exact fun c _ => c.prunesToContainer_pruneContainer registry

end Node

namespace Document

/-! ## Pruned documents -/

/-- The document is pruned to the other one: its pages, pruned, are all that is left. -/
def PrunesTo (registry : Registry) (d d' : Document) : Prop :=
  List.Forall₂ (Node.PrunesToPage registry) d.pages d'.roots

/-- The document, pruned, with the kinds that all nodes in it have. -/
def prune (registry : Registry) (d : Document) : Document :=
  { d with roots := d.pages.map (Node.prunePage registry) }

theorem prunesTo_prune (registry : Registry) (d : Document) : d.PrunesTo registry (d.prune registry) := by
  rw [PrunesTo, prune, List.forall₂_map_right_iff, List.forall₂_same]
  exact fun n _ => n.prunesToPage_prunePage registry

/-- The pages that are left are found as they are. -/
theorem PrunesTo.pages_eq {registry : Registry} {d d' : Document} (h : d.PrunesTo registry d') :
    d'.pages = d'.roots := by
  apply searchPages_eq_self
  refine forall_mem_of_forall₂ ?_ h fun n hn => kind_of_mem_pages hn
  rintro n n' ⟨containers, -, rfl⟩ hkind
  exact hkind

/-- A pruned document has the same pages, as far as they are read. -/
theorem PrunesTo.agree {registry : Registry} {d d' : Document} (h : d.PrunesTo registry d') :
    d.Agree registry d' := by
  rw [Agree, h.pages_eq]
  exact h.imp fun _ _ hn => hn.agree

/-- **What is pruned away is never read.**  Every document can be pruned, and however that is done the
export is the same as before, with the same artifact or the same error, and the same tokens after
it. -/
theorem exportWith_pruned (registry : Registry) (d : Document) :
    d.PrunesTo registry (d.prune registry) ∧
      ∀ d', d.PrunesTo registry d' → ∀ settings tokens,
        d'.exportWith settings registry tokens = d.exportWith settings registry tokens :=
  ⟨d.prunesTo_prune registry, fun _ h settings tokens => h.agree.exportWith_eq settings tokens⟩

/-- The sample loses its shell and the page in the page, and its export stays the same. -/
theorem exportWith_pruned_sample :
    sample.prune .launch ≠ sample ∧
      (sample.prune .launch).exportWith {} .launch {} = sample.exportWith {} .launch {} := by
  obtain ⟨hprune, hexport⟩ := exportWith_pruned .launch sample
  exact ⟨by decide +kernel, hexport _ hprune {} {}⟩

end Document

end CanvasExport
