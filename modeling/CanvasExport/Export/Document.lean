import CanvasExport.Document
import CanvasExport.Export.Layout
/-!
# Export of pages and documents

A page is exported with its width, its background color and its layouts, and a document to an artifact
with its pages and the custom tokens that they use.  `exportWith` goes on from tokens that are defined
already; a failed export leaves them alone.
-/

namespace CanvasExport

/-! ## Pages -/

/-- The background of a page as a color to be looked up: the channels of a color that is not
transparent, whatever its alpha value; a text that notes no color stays as it is. -/
def Node.backgroundColor (n : Node) : String :=
  match n.computedColor? "background-color" with
  | some color => if color.isTransparent then "transparent" else color.hex
  | none => (n.computedText? "background-color").getD "transparent"

namespace Page

/-- The title of a page that is given none. -/
def defaultTitle : String := "Home"

/-- Exports a page and the layouts marked in it. -/
def ofNode (registry : Registry) (title : String) (n : Node) : Walk Page := do
  let width ← .request (.spacing (Pixels.round (n.computedPixels? "width")))
  let background ← .request (.color n.backgroundColor)
  let layouts ← .forEach (Layout.ofNode registry) (n.childrenMarked Marker.container)
  return { title, classes := ["w-" ++ width, "bg-" ++ background], layouts }

end Page

/-! ## Documents -/

/-- What an export is told. -/
structure Settings where
  /-- The framework that the artifact is made for. -/
  framework : String := "solidjs"
  /-- The component library that the artifact is made for. -/
  componentsLibrary : String := "solidui"
  /-- The title of each page. -/
  pageTitle : String := Page.defaultTitle
  deriving DecidableEq

namespace Document

/-- Exports the pages of a document. -/
def exportPages (d : Document) (registry : Registry) (title : String) : Walk (List Page) :=
  .forEach (Page.ofNode registry title) d.pages

/-- Exports a document with the tokens defined so far, and gives the tokens defined after it. -/
def exportWith (d : Document) (settings : Settings) (registry : Registry) (tokens : Tokens) :
    Except ExportError Artifact × Tokens :=
  let walk := d.exportPages registry settings.pageTitle
  match walk.outcome with
  | .error e => (.error e, tokens)
  | .ok pages =>
      let tokens := walk.tokensAfter tokens
      (.ok ⟨settings.framework, settings.componentsLibrary, pages, tokens⟩, tokens)

/-- Exports a document on its own. -/
def exportFresh (d : Document) (settings : Settings) (registry : Registry) :
    Except ExportError Artifact :=
  (d.exportWith settings registry {}).1

end Document

end CanvasExport
