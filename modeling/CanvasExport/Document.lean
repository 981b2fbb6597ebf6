import CanvasExport.Descriptor
/-!
# Documents

A `Document` is the snapshot of a canvas: its top-level nodes and the descriptors of the components
in them.  Its pages are the page nodes that lie in no other page, in document order.
-/

namespace CanvasExport

/-- A snapshot of the canvas. -/
structure Document where
  /-- The top-level nodes in document order. -/
  roots : List Node := []
  /-- The descriptors of the component tags in use. -/
  descriptors : List Descriptor := []
  deriving DecidableEq

namespace Document

/-- The first page nodes met from the pending nodes on: a page is taken and not entered, any other
node is replaced by its children. -/
def searchPages : List Node → List Node
  | [] => []
  | n :: pending =>
      if n.kind = .page then n :: searchPages pending
      else searchPages (n.children ++ pending)
termination_by pending => Node.weights pending
decreasing_by
  · simp only [Node.weights, Node.weight_eq]; omega
  · simp only [Node.weights, Node.weight_eq, Node.weights_append]; omega

/-- The pages in document order; the search does not look into a page. -/
def pages (d : Document) : List Node := searchPages d.roots

/-- The registry of the document's descriptors. -/
def registry? (d : Document) : Except DescriptorConflict Registry := Registry.ofList? d.descriptors

end Document

end CanvasExport
