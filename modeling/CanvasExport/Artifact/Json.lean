import CanvasExport.Artifact
import CanvasExport.Token.Json
/-!
# Artifacts in JSON

An artifact and its parts are records.  All fields have to be given, except that the text inside a
component may be missing where the fields have names.
-/

namespace CanvasExport

open Json

/-! ## Properties -/

namespace Props

/-- Reads properties; a name that comes again keeps its place and takes the later value. -/
def read (depth : Nat) (t : Tree) : Result Props :=
  (readMembers "a map of property names to strings or null" depth (readOption readText) t).map ofList

/-- The properties that a text describes. -/
def parse (text : String) : Result Props := decode read text

/-- The properties in JSON, in their order. -/
def toJson (p : Props) : Json := .object (p.entries.map fun (name, value) => (name, .ofOption value))

/-- The text of properties. -/
def render (p : Props) : String := p.toJson.render .compact

end Props

/-! ## Components -/

namespace ComponentData

/-- The fields of a component's data, inside of which so many containers may be opened. -/
def shape (depth : Nat) : Shape ComponentData where
  name := "ComponentData"
  start := {}
  fields :=
    [.of "props" .required (Props.read depth) fun props d => { d with props },
     .of "classes" .required (readList depth readText) fun classes d => { d with classes },
     .of "attributes" .required (readDict depth readText) fun attributes d => { d with attributes },
     .of "innerText" .optional (readOption readText) fun innerText d => { d with innerText }]

/-- The data in JSON. -/
def toJson (d : ComponentData) : Json :=
  .object
    [("props", d.props.toJson), ("classes", .ofTexts d.classes),
     ("attributes", .ofTextDict d.attributes), ("innerText", .ofOption d.innerText)]

end ComponentData

namespace Component

/-- The fields of a component, inside of which so many containers may be opened. -/
def shape (depth : Nat) : Shape Component where
  name := "Component"
  start := ⟨"", "", {}⟩
  fields :=
    [.of "name" .required readText fun name c => { c with name },
     .of "id" .required readText fun id c => { c with id },
     .of "data" .required ((ComponentData.shape (depth - 1)).read depth)
       fun data c => { c with data }]

/-- Reads a component. -/
def read (depth : Nat) (t : Tree) : Result Component := (shape (depth - 1)).read depth t

/-- The component in JSON. -/
def toJson (c : Component) : Json :=
  .object [("name", .string c.name), ("id", .string c.id), ("data", c.data.toJson)]

/-- The text of a component. -/
def render (c : Component) : String := c.toJson.render .compact

end Component

/-! ## Layouts and pages -/

namespace LayoutKind

/-- The kinds by name. -/
def variants : List (String × LayoutKind) := [("free", .free), ("flex", .flex), ("grid", .grid)]

/-- The name of a kind. -/
def name : LayoutKind → String
  | .free => "free"
  | .flex => "flex"
  | .grid => "grid"

end LayoutKind

namespace Layout

/-- The fields of a layout, inside of which so many containers may be opened. -/
def shape (depth : Nat) : Shape Layout where
  name := "Layout"
  start := ⟨.free, [], []⟩
  fields :=
    [.of "kind" .required (readVariant LayoutKind.variants depth) fun kind l => { l with kind },
     .of "classes" .required (readList depth readText) fun classes l => { l with classes },
     .of "components" .required (readList depth (Component.read (depth - 1)))
       fun components l => { l with components }]

/-- Reads a layout. -/
def read (depth : Nat) (t : Tree) : Result Layout := (shape (depth - 1)).read depth t

/-- The layout in JSON. -/
def toJson (l : Layout) : Json :=
  .object
    [("kind", .string l.kind.name), ("classes", .ofTexts l.classes),
     ("components", .array (l.components.map Component.toJson))]

/-- The text of a layout. -/
def render (l : Layout) : String := l.toJson.render .compact

end Layout

namespace Page

/-- The fields of a page, inside of which so many containers may be opened. -/
def shape (depth : Nat) : Shape Page where
  name := "Page"
  start := ⟨"", [], []⟩
  fields :=
    [.of "title" .required readText fun title p => { p with title },
     .of "classes" .required (readList depth readText) fun classes p => { p with classes },
     .of "layouts" .required (readList depth (Layout.read (depth - 1)))
       fun layouts p => { p with layouts }]

/-- Reads a page. -/
def read (depth : Nat) (t : Tree) : Result Page := (shape (depth - 1)).read depth t

/-- The page in JSON. -/
def toJson (p : Page) : Json :=
  .object
    [("title", .string p.title), ("classes", .ofTexts p.classes),
     ("layouts", .array (p.layouts.map Layout.toJson))]

/-- The text of a page. -/
def render (p : Page) : String := p.toJson.render .compact

end Page

/-! ## Artifacts -/

namespace Artifact

/-- The fields of an artifact, inside of which so many containers may be opened. -/
def shape (depth : Nat) : Shape Artifact where
  name := "ExportArtifact"
  start := ⟨"", "", [], {}⟩
  fields :=
    [.of "framework" .required readText fun framework a => { a with framework },
     .of "componentsLibrary" .required readText
       fun componentsLibrary a => { a with componentsLibrary },
     .of "pages" .required (readList depth (Page.read (depth - 1))) fun pages a => { a with pages },
     .of "tailwindConfig" .required (Tokens.read depth) fun tokens a => { a with tokens }]

/-- Reads an artifact. -/
def read (depth : Nat) (t : Tree) : Result Artifact := (shape (depth - 1)).read depth t

/-- The artifact that a text describes. -/
def parse (text : String) : Result Artifact := decode read text

/-- The artifact in JSON. -/
def toJson (a : Artifact) : Json :=
  .object
    [("framework", .string a.framework), ("componentsLibrary", .string a.componentsLibrary),
     ("pages", .array (a.pages.map Page.toJson)), ("tailwindConfig", a.tokens.toJson)]

/-- The text of an artifact. -/
def render (layout : Json.Layout) (a : Artifact) : String := a.toJson.render layout

end Artifact

end CanvasExport
