import CanvasExport.Export.Document
import CanvasExport.Proofs.Pages
import CanvasExport.Proofs.Walk
/-!
# The steps of an export

Read off the nodes alone, in document order: the width and the background of each page, and in it,
for each container, its height, its templates if it is a grid, and its components with their offsets
if it is free.  A template without a cell size and a component without a descriptor are faults.  An
export follows these steps (`Document.follows_exportPages`).
-/

namespace CanvasExport

/-! ## Steps of nodes -/

/-- The cell size that the template of a node gives along an axis. -/
def Node.cellSize? (n : Node) (axis : Axis) : Option Double :=
  (n.inline? axis.property).bind GridTemplate.cell?

/-- The step of a template: its cell size, or the fault that it gives none. -/
def Node.templateStep (n : Node) (axis : Axis) : Walk.Step :=
  match n.cellSize? axis with
  | some size => .request (.cell axis size)
  | none => .fault (.malformedGridTemplate n.id axis (n.inline? axis.property))

/-- The steps of the templates of a layout. -/
def Node.templateSteps (n : Node) : LayoutKind → List Walk.Step
  | .grid => [n.templateStep .columns, n.templateStep .rows]
  | _ => []

/-- The steps that place a component in a layout. -/
def Node.placementSteps (n : Node) : LayoutKind → List Walk.Step
  | .free =>
      [.request (.spacing (Pixels.truncate (n.computedPixels? "top"))),
        .request (.spacing (Pixels.truncate (n.computedPixels? "left")))]
  | _ => []

/-- The steps of a component in a layout.  What comes behind a fault is not reached, so it may as
well be there. -/
def Node.componentSteps (registry : Registry) (layout : LayoutKind) (n : Node) : List Walk.Step :=
  match registry.descriptorOf? n with
  | some _ => n.placementSteps layout
  | none => .fault (.schemaMissing n.id n.tag) :: n.placementSteps layout

/-- The steps of a container. -/
def Node.containerSteps (registry : Registry) (n : Node) : List Walk.Step :=
  .request (.spacing (Pixels.round (n.computedPixels? "height"))) ::
    (n.templateSteps (LayoutKind.ofNode n) ++
      (n.childrenMarked Marker.component).flatMap
        (componentSteps registry (LayoutKind.ofNode n)))

/-- The steps of a page. -/
def Node.pageSteps (registry : Registry) (n : Node) : List Walk.Step :=
  .request (.spacing (Pixels.round (n.computedPixels? "width"))) ::
    .request (.color n.backgroundColor) ::
      (n.childrenMarked Marker.container).flatMap (containerSteps registry)

/-- The steps of a document. -/
def Document.steps (registry : Registry) (d : Document) : List Walk.Step :=
  d.outermostPages.flatMap (Node.pageSteps registry)

/-- The requests of a document. -/
def Document.requests (registry : Registry) (d : Document) : List TokenRequest :=
  Walk.requestsIn (d.steps registry)

/-- The faults of a document. -/
def Document.faults (registry : Registry) (d : Document) : List ExportError :=
  Walk.faultsIn (d.steps registry)

/-- A step is one of a page, of a container in a page or of a component in that. -/
theorem Document.mem_steps {d : Document} {registry : Registry} {s : Walk.Step} :
    s ∈ d.steps registry ↔ ∃ p ∈ d.outermostPages,
      s = .request (.spacing (Pixels.round (p.computedPixels? "width"))) ∨
      s = .request (.color p.backgroundColor) ∨
      ∃ c ∈ p.childrenMarked Marker.container,
        s = .request (.spacing (Pixels.round (c.computedPixels? "height"))) ∨
        s ∈ c.templateSteps (LayoutKind.ofNode c) ∨
        ∃ n ∈ c.childrenMarked Marker.component,
          s ∈ n.componentSteps registry (LayoutKind.ofNode c) := by
  simp only [steps, Node.pageSteps, Node.containerSteps, List.mem_flatMap, List.mem_cons,
    List.mem_append]

/-! ## An export follows its steps -/

theorem Node.follows_placementClasses (n : Node) (layout : LayoutKind) :
    (n.placementClasses layout).Follows (n.placementSteps layout) := by
  cases layout with
  | free => exact .request_bind (.request_bind (.pure _))
  | flex => exact .pure _
  | grid => exact .pure _

theorem Component.follows_ofNode (registry : Registry) (layout : LayoutKind) (n : Node) :
    (ofNode registry layout n).Follows (n.componentSteps registry layout) := by
  unfold ofNode Node.componentSteps
  cases registry.descriptorOf? n with
  | none => exact .fail _ _
  | some d => exact (n.follows_placementClasses layout).bind_pure _

theorem Layout.follows_templateClass (n : Node) (axis : Axis) :
    (templateClass n axis).Follows [n.templateStep axis] := by
  unfold templateClass Node.templateStep Node.cellSize?
  dsimp only
  cases (n.inline? axis.property).bind GridTemplate.cell? with
  | none => exact .fail _ []
  | some size => exact .request_bind (.pure _)

theorem Layout.follows_templateClasses (n : Node) (kind : LayoutKind) :
    (templateClasses n kind).Follows (n.templateSteps kind) := by
  cases kind with
  | free => exact .pure _
  | flex => exact .pure _
  | grid => exact .forEach (follows_templateClass n) [.columns, .rows]

theorem Layout.follows_ofNode (registry : Registry) (n : Node) :
    (ofNode registry n).Follows (n.containerSteps registry) := by
  have hcomponents := Walk.Follows.forEach
    (Component.follows_ofNode registry (LayoutKind.ofNode n)) (n.childrenMarked Marker.component)
  refine .request_bind ?_
  exact (follows_templateClasses n _).bind fun _ => hcomponents.bind_pure _

theorem Page.follows_ofNode (registry : Registry) (title : String) (n : Node) :
    (ofNode registry title n).Follows (n.pageSteps registry) := by
  have hlayouts := Walk.Follows.forEach
    (Layout.follows_ofNode registry) (n.childrenMarked Marker.container)
  refine .request_bind (.request_bind ?_)
  exact hlayouts.bind_pure _

/-- **An export follows the steps of its document.** -/
theorem Document.follows_exportPages (d : Document) (registry : Registry) (title : String) :
    (d.exportPages registry title).Follows (d.steps registry) := by
  rw [exportPages, pages_eq_outermostPages]
  exact .forEach (Page.follows_ofNode registry title) d.outermostPages

end CanvasExport
