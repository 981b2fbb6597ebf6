import CanvasExport.Props
import CanvasExport.Token.Tokens
/-!
# Artifacts

An `Artifact` is the result of an export: pages with their layouts and the components in them, each
with its classes, and the custom tokens that the classes use.
-/

namespace CanvasExport

/-- What is known of a component apart from its name and id. -/
structure ComponentData where
  props : Props := .empty
  /-- The classes in the order of their emission. -/
  classes : List String := []
  /-- Further attributes. -/
  attributes : Dict String := .empty
  /-- The text inside the component. -/
  innerText : Option String := none
  deriving DecidableEq

/-- A component of a layout. -/
structure Component where
  name : String
  id : String
  data : ComponentData
  deriving DecidableEq

/-- How the components of a layout are placed. -/
inductive LayoutKind
  /-- By absolute positions. -/
  | free
  | flex
  | grid
  deriving DecidableEq, Repr

/-- A container of components. -/
structure Layout where
  kind : LayoutKind
  /-- The classes in the order of their emission. -/
  classes : List String
  /-- The components in document order. -/
  components : List Component
  deriving DecidableEq

/-- A page. -/
structure Page where
  title : String
  /-- The classes in the order of their emission. -/
  classes : List String
  /-- The layouts in document order. -/
  layouts : List Layout
  deriving DecidableEq

/-- The result of an export. -/
structure Artifact where
  /-- The framework that the artifact is made for. -/
  framework : String
  /-- The component library that the artifact is made for. -/
  componentsLibrary : String
  /-- The pages in document order. -/
  pages : List Page
  /-- The custom tokens in use. -/
  tokens : Tokens
  deriving DecidableEq

end CanvasExport
