import CanvasExport.Proofs.Export
import CanvasExport.Proofs.Steps
/-!
# Documents and their artifacts

An artifact represents its document: it has a page for each page node that lies in no page, a layout
for each container in it and a component for each component in that, all in document order and with
the classes that their nodes give (`Document.represents_of_exportWith_eq_ok`).
-/

namespace CanvasExport

/-! ## What represents a node -/

/-- The component has the id of the node, and is named by its tag. -/
structure Component.Represents (n : Node) (c : Component) : Prop where
  id : c.id = n.id
  name : n.tag = some c.name

/-- The classes that a layout of any kind has: its height, and the markers that say nothing about it
as a layout. -/
def Layout.leadingClasses (n : Node) : List String :=
  ("h-" ++ Spacing.token (Pixels.round (n.computedPixels? "height"))) ::
    n.markers.filter (· ∉ [Marker.container, Marker.free, Marker.flex, Marker.grid])

/-- The layout is of the kind that the markers of the node say, has the classes of the node and, if
it is a grid, those of its templates behind them, and has a component for each child that is marked
as one. -/
structure Layout.Represents (n : Node) (l : Layout) : Prop where
  free : l.kind = .free ↔
    Marker.free ∈ n.markers ∨ Marker.flex ∉ n.markers ∧ Marker.grid ∉ n.markers
  flex : l.kind = .flex ↔ Marker.free ∉ n.markers ∧ Marker.flex ∈ n.markers
  grid : l.kind = .grid ↔
    Marker.free ∉ n.markers ∧ Marker.flex ∉ n.markers ∧ Marker.grid ∈ n.markers
  classes_of_grid : l.kind = .grid → ∃ columns rows, n.cellSize? .columns = some columns ∧
    n.cellSize? .rows = some rows ∧
    l.classes = leadingClasses n ++
      ["grid-cols-" ++ GridTemplate.token columns, "grid-rows-" ++ GridTemplate.token rows]
  classes_of_not_grid : l.kind ≠ .grid → l.classes = leadingClasses n
  components : List.Forall₂ Component.Represents
    (n.children.filter (Marker.component ∈ ·.markers)) l.components

/-- The page has the title, the width and the background of the node as its classes, and a layout for
each child that is marked as a container. -/
structure Page.Represents (title : String) (n : Node) (p : Page) : Prop where
  title : p.title = title
  classes : p.classes = ["w-" ++ Spacing.token (Pixels.round (n.computedPixels? "width")),
    "bg-" ++ Palette.token n.backgroundColor]
  layouts : List.Forall₂ Layout.Represents
    (n.children.filter (Marker.container ∈ ·.markers)) p.layouts

/-- The artifact is as the settings say, and has a page for each page node that lies in no page. -/
structure Artifact.Represents (settings : Settings) (d : Document) (a : Artifact) : Prop where
  framework : a.framework = settings.framework
  componentsLibrary : a.componentsLibrary = settings.componentsLibrary
  pages : List.Forall₂ (Page.Represents settings.pageTitle) d.outermostPages a.pages

/-! ## Markers -/

/-- A node carries the markers that it lists. -/
theorem Node.hasMarker_eq_true_iff {n : Node} {marker : String} :
    n.hasMarker marker = true ↔ marker ∈ n.markers := by
  rw [hasMarker, List.contains_iff_mem]

/-- The marked children are those that list the marker. -/
theorem Node.childrenMarked_eq_filter_mem (n : Node) (marker : String) :
    n.childrenMarked marker = n.children.filter (marker ∈ ·.markers) := by
  unfold childrenMarked
  refine List.filter_congr fun c _ => ?_
  rw [Bool.eq_iff_iff, hasMarker_eq_true_iff, decide_eq_true_iff]

/-- The markers kept as classes are those that are none of the four that make a layout. -/
theorem Marker.filter_layouts_eq (markers : List String) :
    markers.filter (!layouts.contains ·) = markers.filter (· ∉ [container, free, flex, grid]) := by
  refine List.filter_congr fun m _ => ?_
  rw [Bool.eq_iff_iff, Bool.not_eq_true', decide_eq_true_iff, ← Bool.not_eq_true,
    List.contains_iff_mem]
  rfl

/-- A container is free if it is marked so, and else if it is marked as nothing else. -/
theorem LayoutKind.ofNode_eq_free_iff {n : Node} :
    ofNode n = .free ↔
      Marker.free ∈ n.markers ∨ Marker.flex ∉ n.markers ∧ Marker.grid ∉ n.markers := by
  simp only [ofNode, Node.hasMarker_eq_true_iff]
  split_ifs with hfree hflex hgrid <;> simp [*]

/-- A flexbox is marked so, and not as free. -/
theorem LayoutKind.ofNode_eq_flex_iff {n : Node} :
    ofNode n = .flex ↔ Marker.free ∉ n.markers ∧ Marker.flex ∈ n.markers := by
  simp only [ofNode, Node.hasMarker_eq_true_iff]
  split_ifs with hfree hflex hgrid <;> simp [*]

/-- A grid is marked so, and neither as free nor as a flexbox. -/
theorem LayoutKind.ofNode_eq_grid_iff {n : Node} :
    ofNode n = .grid ↔
      Marker.free ∉ n.markers ∧ Marker.flex ∉ n.markers ∧ Marker.grid ∈ n.markers := by
  simp only [ofNode, Node.hasMarker_eq_true_iff]
  split_ifs with hfree hflex hgrid <;> simp [*]

/-! ## Levels of an export -/

/-- The descriptor of a node has its tag. -/
theorem Registry.tag_eq_of_descriptorOf?_eq_some {r : Registry} {n : Node} {d : Descriptor}
    (h : r.descriptorOf? n = some d) : n.tag = some d.tag := by
  obtain ⟨tag, htag, hget⟩ := Option.bind_eq_some_iff.1 h
  have hd : d.tag = tag := by simpa using List.find?_some hget
  rw [htag, hd]

theorem Component.represents_of_ok {registry : Registry} {layout : LayoutKind} {n : Node}
    {c : Component} (h : (ofNode registry layout n).outcome = .ok c) : c.Represents n := by
  unfold ofNode at h
  cases hd : registry.descriptorOf? n with
  | none => simp [hd] at h
  | some d =>
      simp only [hd, ofDescribed] at h
      obtain ⟨classes, -, rfl⟩ := Walk.outcome_bind_pure_eq_ok_iff.1 h
      exact ⟨rfl, Registry.tag_eq_of_descriptorOf?_eq_some hd⟩

/-- A template that has a class gives a cell size, and the class is for that. -/
theorem Layout.exists_cellSize?_of_templateClass {n : Node} {axis : Axis} {class' : String}
    (h : (templateClass n axis).outcome = .ok class') :
    ∃ size, n.cellSize? axis = some size ∧ class' = axis.classStem ++ GridTemplate.token size := by
  unfold templateClass at h
  dsimp only at h
  cases hsize : (n.inline? axis.property).bind GridTemplate.cell? with
  | none => simp [hsize] at h
  | some size =>
      rw [hsize, Walk.outcome_request_bind, Walk.outcome_pure] at h
      exact ⟨size, hsize, (Except.ok.inj h).symm⟩

/-- A grid has a class for its columns, and one for its rows behind it. -/
theorem Layout.exists_cellSizes_of_templateClasses {n : Node} {classes : List String}
    (h : (templateClasses n .grid).outcome = .ok classes) :
    ∃ columns rows, n.cellSize? .columns = some columns ∧ n.cellSize? .rows = some rows ∧
      classes =
        ["grid-cols-" ++ GridTemplate.token columns, "grid-rows-" ++ GridTemplate.token rows] := by
  rw [templateClasses, Walk.outcome_forEach_eq_ok_iff] at h
  cases h with
  | cons hcolumns hrest =>
      cases hrest with
      | cons hrows hnil =>
          cases hnil
          obtain ⟨columns, hc, rfl⟩ := exists_cellSize?_of_templateClass hcolumns
          obtain ⟨rows, hr, rfl⟩ := exists_cellSize?_of_templateClass hrows
          exact ⟨columns, rows, hc, hr, rfl⟩

/-- A layout that is no grid has no class for a template. -/
theorem Layout.eq_nil_of_templateClasses {n : Node} {kind : LayoutKind} (hkind : kind ≠ .grid)
    {classes : List String} (h : (templateClasses n kind).outcome = .ok classes) :
    classes = [] := by
  cases kind with
  | grid => exact absurd rfl hkind
  | free => exact (Except.ok.inj h).symm
  | flex => exact (Except.ok.inj h).symm

theorem Layout.represents_of_ok {registry : Registry} {n : Node} {l : Layout}
    (h : (ofNode registry n).outcome = .ok l) : l.Represents n := by
  unfold ofNode at h
  dsimp only at h
  rw [Walk.outcome_request_bind, Walk.outcome_bind_eq_ok_iff] at h
  obtain ⟨templates, htemplates, h⟩ := h
  obtain ⟨components, hcomponents, rfl⟩ := Walk.outcome_bind_pure_eq_ok_iff.1 h
  rw [Walk.outcome_forEach_eq_ok_iff, Node.childrenMarked_eq_filter_mem] at hcomponents
  constructor
  case free => exact LayoutKind.ofNode_eq_free_iff
  case flex => exact LayoutKind.ofNode_eq_flex_iff
  case grid => exact LayoutKind.ofNode_eq_grid_iff
  case classes_of_grid =>
    intro hgrid
    rw [show LayoutKind.ofNode n = .grid from hgrid] at htemplates
    obtain ⟨columns, rows, hc, hr, rfl⟩ := exists_cellSizes_of_templateClasses htemplates
    exact ⟨columns, rows, hc, hr, by rw [leadingClasses, ← Marker.filter_layouts_eq]; rfl⟩
  case classes_of_not_grid =>
    intro hkind
    rw [eq_nil_of_templateClasses hkind htemplates, List.append_nil, leadingClasses,
      ← Marker.filter_layouts_eq]
    rfl
  case components => exact hcomponents.imp fun _ _ => Component.represents_of_ok

theorem Page.represents_of_ok {registry : Registry} {title : String} {n : Node} {p : Page}
    (h : (ofNode registry title n).outcome = .ok p) : p.Represents title n := by
  unfold ofNode at h
  rw [Walk.outcome_request_bind, Walk.outcome_request_bind] at h
  obtain ⟨layouts, hlayouts, rfl⟩ := Walk.outcome_bind_pure_eq_ok_iff.1 h
  rw [Walk.outcome_forEach_eq_ok_iff, Node.childrenMarked_eq_filter_mem] at hlayouts
  exact ⟨rfl, rfl, hlayouts.imp fun _ _ => Layout.represents_of_ok⟩

/-- **An artifact represents its document.**  Whatever tokens an export starts from, an artifact that
it gives has a page for each page node that lies in no page, in document order, with a layout for
each child marked as a container and in this a component for each child marked as one. -/
theorem Document.represents_of_exportWith_eq_ok {d : Document} {settings : Settings}
    {registry : Registry} {tokens : Tokens} {a : Artifact}
    (h : (d.exportWith settings registry tokens).1 = .ok a) : a.Represents settings d := by
  obtain ⟨pages, hpages, rfl⟩ := exportWith_fst_eq_ok_iff.1 h
  rw [exportPages, Walk.outcome_forEach_eq_ok_iff, pages_eq_outermostPages] at hpages
  exact ⟨rfl, rfl, hpages.imp fun _ _ => Page.represents_of_ok⟩

/-- The sample is exported, and represented. -/
theorem Document.represents_sample :
    ∃ a, (sample.exportWith {} .launch {}).1 = .ok a ∧ a.Represents {} sample := by
  obtain ⟨a, ha⟩ := exists_exportFresh_sample
  exact ⟨a, ha, represents_of_exportWith_eq_ok ha⟩

end CanvasExport
