import CanvasExport.Export.Document
import CanvasExport.Proofs.Walk
/-!
# What an export reads

Nodes agree as a component, as a container or as a page when they give the same answers to what is
asked of a node in that place; documents agree when their pages do, one by one.  Documents that agree
have the same export, whatever else is in them (`Document.Agree.exportWith_eq`).
-/

namespace CanvasExport

/-! ## Walks over two lists -/

/-- Lists whose members are walked over alike are walked over alike. -/
theorem Walk.forEach_eq_of_forall₂ {α β : Type} {visit visit' : α → Walk β} {as as' : List α}
    (h : List.Forall₂ (fun a a' => visit' a' = visit a) as as') :
    forEach visit' as' = forEach visit as := by
  induction h with
  | nil => rfl
  | cons hhead _ ih => rw [forEach_cons, forEach_cons, hhead, ih]

/-! ## Components -/

/-- The computed properties that place a component in a layout. -/
def LayoutKind.placementProperties : LayoutKind → List String
  | .free => ["top", "left"]
  | .grid => ["grid-column-start", "grid-column-end", "grid-row-start", "grid-row-end"]
  | .flex => []

namespace Node

/-- The nodes are the same component of a layout: the same id and tag, the same values of the
attributes that are declared for the tag, and the same place.  The place is asked for as lengths in a
free layout, and as text in a grid. -/
structure AgreeAsComponent (registry : Registry) (layout : LayoutKind) (n n' : Node) : Prop where
  id : n'.id = n.id
  tag : n'.tag = n.tag
  attributes : ∀ d, registry.descriptorOf? n = some d →
    ∀ p ∈ d.parameters, n'.attribute? p.name = n.attribute? p.name
  offsets : layout = .free → ∀ property ∈ LayoutKind.placementProperties .free,
    n'.computedPixels? property = n.computedPixels? property
  lines : layout = .grid → ∀ property ∈ LayoutKind.placementProperties .grid,
    n'.computedText? property = n.computedText? property

/-- They have the same descriptor. -/
theorem AgreeAsComponent.descriptorOf?_eq {registry : Registry} {layout : LayoutKind} {n n' : Node}
    (h : n.AgreeAsComponent registry layout n') :
    registry.descriptorOf? n' = registry.descriptorOf? n := by
  rw [Registry.descriptorOf?, Registry.descriptorOf?, h.tag]

/-- They are placed alike. -/
theorem AgreeAsComponent.placementClasses_eq {registry : Registry} {layout : LayoutKind}
    {n n' : Node} (h : n.AgreeAsComponent registry layout n') :
    n'.placementClasses layout = n.placementClasses layout := by
  cases layout with
  | flex => rfl
  | free =>
      have htop := h.offsets rfl "top" (by decide)
      have hleft := h.offsets rfl "left" (by decide)
      rw [placementClasses, placementClasses, htop, hleft]
  | grid =>
      have hcolumn := h.lines rfl "grid-column-start" (by decide)
      have hcolumns := h.lines rfl "grid-column-end" (by decide)
      have hrow := h.lines rfl "grid-row-start" (by decide)
      have hrows := h.lines rfl "grid-row-end" (by decide)
      simp only [placementClasses, gridStart, gridSpan, hcolumn, hcolumns, hrow, hrows]

end Node

namespace Component

/-- The parameters are read from the declared attributes. -/
theorem readParameters_congr {d : Descriptor} {n n' : Node}
    (h : ∀ p ∈ d.parameters, n'.attribute? p.name = n.attribute? p.name) :
    readParameters d n' = readParameters d n := by
  apply List.foldl_ext
  intro read p hp
  rw [readParameter, readParameter, Node.filledAttribute?, Node.filledAttribute?, h p hp]

end Component

/-- **The same component has the same export.** -/
theorem Node.AgreeAsComponent.ofNode_eq {registry : Registry} {layout : LayoutKind} {n n' : Node}
    (h : n.AgreeAsComponent registry layout n') :
    Component.ofNode registry layout n' = Component.ofNode registry layout n := by
  rw [Component.ofNode, Component.ofNode, h.descriptorOf?_eq]
  cases hd : registry.descriptorOf? n with
  | none =>
      dsimp only
      rw [h.id, h.tag]
  | some d =>
      have hattributes := h.attributes d hd
      dsimp only
      rw [Component.ofDescribed, Component.ofDescribed, h.placementClasses_eq, h.id,
        Component.readParameters_congr hattributes]

/-! ## Containers -/

namespace Node

/-- The nodes are the same container: the same id, markers and height, for a grid the same templates,
and the same components. -/
structure AgreeAsContainer (registry : Registry) (n n' : Node) : Prop where
  id : n'.id = n.id
  markers : n'.markers = n.markers
  height : n'.computedPixels? "height" = n.computedPixels? "height"
  templates : LayoutKind.ofNode n = .grid →
    ∀ axis : Axis, n'.inline? axis.property = n.inline? axis.property
  components : List.Forall₂ (AgreeAsComponent registry (LayoutKind.ofNode n))
    (n.childrenMarked Marker.component) (n'.childrenMarked Marker.component)

theorem hasMarker_congr {n n' : Node} (h : n'.markers = n.markers) (marker : String) :
    n'.hasMarker marker = n.hasMarker marker := by
  rw [hasMarker, hasMarker, h]

/-- The kind of a container is told by its markers. -/
theorem layoutKind_congr {n n' : Node} (h : n'.markers = n.markers) :
    LayoutKind.ofNode n' = LayoutKind.ofNode n := by
  have hmarker := hasMarker_congr h
  rw [LayoutKind.ofNode, LayoutKind.ofNode, hmarker, hmarker, hmarker]

/-- They have the same templates. -/
theorem AgreeAsContainer.templateClasses_eq {registry : Registry} {n n' : Node}
    (h : n.AgreeAsContainer registry n') :
    Layout.templateClasses n' (LayoutKind.ofNode n) =
      Layout.templateClasses n (LayoutKind.ofNode n) := by
  cases hkind : LayoutKind.ofNode n with
  | free => rfl
  | flex => rfl
  | grid =>
      have htemplate : Layout.templateClass n' = Layout.templateClass n := by
        funext axis
        rw [Layout.templateClass, Layout.templateClass, h.templates hkind axis, h.id]
      rw [Layout.templateClasses, Layout.templateClasses, htemplate]

/-- **The same container has the same export.** -/
theorem AgreeAsContainer.ofNode_eq {registry : Registry} {n n' : Node}
    (h : n.AgreeAsContainer registry n') : Layout.ofNode registry n' = Layout.ofNode registry n := by
  have hkind := layoutKind_congr h.markers
  have hcomponents :
      Walk.forEach (Component.ofNode registry (LayoutKind.ofNode n))
          (n'.childrenMarked Marker.component) =
        Walk.forEach (Component.ofNode registry (LayoutKind.ofNode n))
          (n.childrenMarked Marker.component) :=
    Walk.forEach_eq_of_forall₂ (h.components.imp fun c c' hc => hc.ofNode_eq)
  rw [Layout.ofNode, Layout.ofNode, hkind, h.height, h.templateClasses_eq, hcomponents, h.markers]

/-! ## Pages -/

/-- The nodes are the same page: the same width and background, and the same containers. -/
structure AgreeAsPage (registry : Registry) (n n' : Node) : Prop where
  width : n'.computedPixels? "width" = n.computedPixels? "width"
  background : n'.backgroundColor = n.backgroundColor
  containers : List.Forall₂ (AgreeAsContainer registry)
    (n.childrenMarked Marker.container) (n'.childrenMarked Marker.container)

/-- **The same page has the same export.** -/
theorem AgreeAsPage.ofNode_eq {registry : Registry} {n n' : Node}
    (h : n.AgreeAsPage registry n') (title : String) :
    Page.ofNode registry title n' = Page.ofNode registry title n := by
  have hlayouts :
      Walk.forEach (Layout.ofNode registry) (n'.childrenMarked Marker.container) =
        Walk.forEach (Layout.ofNode registry) (n.childrenMarked Marker.container) :=
    Walk.forEach_eq_of_forall₂ (h.containers.imp fun c c' hc => hc.ofNode_eq)
  rw [Page.ofNode, Page.ofNode, h.width, h.background, hlayouts]

end Node

/-! ## Documents -/

namespace Document

/-- The documents have the same pages in the same order. -/
def Agree (registry : Registry) (d d' : Document) : Prop :=
  List.Forall₂ (Node.AgreeAsPage registry) d.pages d'.pages

/-- The same pages are walked over alike. -/
theorem Agree.exportPages_eq {registry : Registry} {d d' : Document} (h : d.Agree registry d')
    (title : String) : d'.exportPages registry title = d.exportPages registry title :=
  Walk.forEach_eq_of_forall₂ (h.imp fun _ _ hn => hn.ofNode_eq title)

/-- **An export depends on what it reads alone.**  Documents that agree have the same export, with the
same artifact or the same error, and the same tokens after it. -/
theorem Agree.exportWith_eq {registry : Registry} {d d' : Document} (h : d.Agree registry d')
    (settings : Settings) (tokens : Tokens) :
    d'.exportWith settings registry tokens = d.exportWith settings registry tokens := by
  rw [exportWith, exportWith, h.exportPages_eq settings.pageTitle]

end Document

end CanvasExport
