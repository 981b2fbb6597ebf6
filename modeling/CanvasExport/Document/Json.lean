import CanvasExport.Descriptor.Json
import CanvasExport.Document
/-!
# Documents in JSON

A document is a record of its top-level nodes and its descriptors, neither of which has to be given.  A
node is a record of which only the kind has to be given; an absent tag is not written.  The children
are nodes again, each two containers deeper than its parent.  A style value is a number or a string.
-/

namespace CanvasExport

open Json

/-! ## Style values -/

namespace StyleValue

/-- Reads a style value.  Any other value is looked through before it is refused. -/
def read (depth : Nat) (t : Tree) : Result StyleValue := do
  t.check depth
  match t with
  | .number literal => return .number ((← Numeric.ofLiteral literal).toBinary .double)
  | .string content => return .text (← content.text)
  | _ => throw (.mismatch (.noAlternative "StyleValue"))

/-- The style value in JSON. -/
def toJson : StyleValue → Json
  | .number x => .ofBinary .double x
  | .text s => .string s

end StyleValue

/-! ## Nodes -/

namespace NodeKind

/-- The kinds by name. -/
def variants : List (String × NodeKind) :=
  [("page", .page), ("layout", .layout), ("component", .component)]

/-- The name of a kind. -/
def name : NodeKind → String
  | .page => "page"
  | .layout => "layout"
  | .component => "component"

end NodeKind

namespace Node

/-- The fields of a node, inside of which so many containers may be opened. -/
def shape (depth : Nat) (child : Tree → Result Node) : Shape Node where
  name := "VisualNode"
  start := { id := "", kind := .page }
  fields :=
    [.of "id" .defaulted readText fun id n => { n with id },
     .of "kind" .required (readVariant NodeKind.variants depth) fun kind n => { n with kind },
     .of "tag" .defaulted (readOption readText) fun tag n => { n with tag },
     .of "markers" .defaulted (readList depth readText) fun markers n => { n with markers },
     .of "attributes" .defaulted (readDict depth readText) fun attributes n => { n with attributes },
     .of "computed" .defaulted (readDict depth (StyleValue.read (depth - 1)))
       fun computed n => { n with computed },
     .of "inline_style" .defaulted (readDict depth readText)
       fun inlineStyle n => { n with inlineStyle },
     .of "children" .defaulted (readList depth child) fun children n => { n with children }]

/-- Reads a node. -/
def read : Nat → Tree → Result Node
  | 0, t => (shape 0 fun _ => .error .malformed).read 0 t
  | 1, t => (shape 0 fun _ => .error .malformed).read 1 t
  | depth + 2, t => (shape (depth + 1) (read depth)).read (depth + 2) t

mutual

/-- The node in JSON. -/
def toJson : Node → Json
  | ⟨id, kind, tag, markers, attributes, computed, inlineStyle, children⟩ =>
      .object <|
        [("id", .string id), ("kind", .string kind.name)] ++
        (match tag with
          | none => []
          | some tag => [("tag", .string tag)]) ++
        [("markers", .ofTexts markers), ("attributes", .ofTextDict attributes),
         ("computed", .ofDict StyleValue.toJson computed),
         ("inline_style", .ofTextDict inlineStyle), ("children", .array (toJsonList children))]

/-- Nodes in JSON. -/
def toJsonList : List Node → List Json
  | [] => []
  | n :: ns => n.toJson :: toJsonList ns

end

end Node

/-! ## Documents -/

namespace Document

/-- The fields of a document, inside of which so many containers may be opened. -/
def shape (depth : Nat) : Shape Document where
  name := "VisualDocument"
  start := {}
  fields :=
    [.of "roots" .defaulted (readList depth (Node.read (depth - 1))) fun roots d => { d with roots },
     .of "descriptors" .defaulted (readList depth (Descriptor.read (depth - 1)))
       fun descriptors d => { d with descriptors }]

/-- Reads a document. -/
def read (depth : Nat) (t : Tree) : Result Document := (shape (depth - 1)).read depth t

/-- The document that a text describes. -/
def parse (text : String) : Result Document := decode read text

/-- The document in JSON. -/
def toJson (d : Document) : Json :=
  .object
    [("roots", .array (Node.toJsonList d.roots)),
     ("descriptors", .array (d.descriptors.map Descriptor.toJson))]

/-- The text of a document. -/
def render (d : Document) : String := d.toJson.render .compact

end Document

end CanvasExport
