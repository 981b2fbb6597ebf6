import CanvasExport.Color
import CanvasExport.Dict
import CanvasExport.Style
/-!
# Visual nodes

A `Node` is a snapshot of one element of the editor canvas: its marker classes, its attributes, the
style values computed for it, its inline style declarations and its children.
-/

namespace CanvasExport

/-! ## Kinds -/

/-- What a node stands for. -/
inductive NodeKind
  /-- The root of a page. -/
  | page
  /-- A container of components. -/
  | layout
  /-- An instance of a component. -/
  | component
  deriving DecidableEq, Repr

/-! ## Marker classes that the export looks at -/

namespace Marker

/-- A layout container that belongs to a page. -/
def container : String := "container"

/-- A component placed in a container. -/
def component : String := "component"

/-- A container with absolutely positioned components. -/
def free : String := "free"

/-- A flexbox container. -/
def flex : String := "flex"

/-- A grid container. -/
def grid : String := "grid"

end Marker

/-! ## Elements -/

/-- One element of the canvas. -/
structure Node where
  /-- The id of the element. -/
  id : String
  kind : NodeKind
  /-- The name of the element, under which a component is described. -/
  tag : Option String := none
  /-- The marker classes in document order. -/
  markers : List String := []
  attributes : Dict String := .empty
  /-- The computed style by property. -/
  computed : Dict StyleValue := .empty
  /-- The inline style declarations by property. -/
  inlineStyle : Dict String := .empty
  /-- The children in document order. -/
  children : List Node := []

namespace Node

/-! ## Equality -/

mutual

/-- Decides equality of nodes. -/
def decEq : (a b : Node) → Decidable (a = b)
  | ⟨i, k, t, m, p, c, s, xs⟩, ⟨i', k', t', m', p', c', s', ys⟩ =>
      match decEqList xs ys with
      | .isTrue hxs =>
          if h : i = i' ∧ k = k' ∧ t = t' ∧ m = m' ∧ p = p' ∧ c = c' ∧ s = s' then
            .isTrue (by obtain ⟨rfl, rfl, rfl, rfl, rfl, rfl, rfl⟩ := h; rw [hxs])
          else .isFalse fun e => h (by cases e; exact ⟨rfl, rfl, rfl, rfl, rfl, rfl, rfl⟩)
      | .isFalse hxs => .isFalse fun e => hxs (by cases e; rfl)

/-- Decides equality of lists of nodes. -/
def decEqList : (xs ys : List Node) → Decidable (xs = ys)
  | [], [] => .isTrue rfl
  | [], _ :: _ => .isFalse nofun
  | _ :: _, [] => .isFalse nofun
  | x :: xs, y :: ys =>
      match decEq x y with
      | .isTrue hx =>
          match decEqList xs ys with
          | .isTrue hxs => .isTrue (by rw [hx, hxs])
          | .isFalse hxs => .isFalse fun e => hxs (List.cons.inj e).2
      | .isFalse hx => .isFalse fun e => hx (List.cons.inj e).1

end

instance : DecidableEq Node := decEq

/-! ## Building -/

/-- The root of a page. -/
def page (id : String) : Node := { id, kind := .page }

/-- A layout container; it carries the marker for one. -/
def layout (id : String) : Node := { id, kind := .layout, markers := [Marker.container] }

/-- An instance of the component `tag`; it carries the marker for one. -/
def component (id tag : String) : Node :=
  { id, kind := .component, tag := some tag, markers := [Marker.component] }

/-- The node with this tag. -/
def withTag (n : Node) (tag : String) : Node := { n with tag := some tag }

/-- The node with one more marker. -/
def withMarker (n : Node) (marker : String) : Node := { n with markers := n.markers ++ [marker] }

/-- The node with the attribute set. -/
def withAttribute (n : Node) (name value : String) : Node :=
  { n with attributes := n.attributes.insert name value }

/-- The node with the computed property set. -/
def withComputed (n : Node) (property : String) (value : StyleValue) : Node :=
  { n with computed := n.computed.insert property value }

/-- The node with the inline declaration set. -/
def withInline (n : Node) (property value : String) : Node :=
  { n with inlineStyle := n.inlineStyle.insert property value }

/-- The node with one more child. -/
def withChild (n child : Node) : Node := { n with children := n.children ++ [child] }

/-! ## Reading -/

/-- Whether the node carries the marker. -/
def hasMarker (n : Node) (marker : String) : Bool := n.markers.contains marker

/-- The value of an attribute. -/
def attribute? (n : Node) (name : String) : Option String := n.attributes.get? name

/-- The value of a computed property. -/
def computed? (n : Node) (property : String) : Option StyleValue := n.computed.get? property

/-- The value of a computed property as a length. -/
def computedPixels? (n : Node) (property : String) : Option Double :=
  (n.computed? property).bind StyleValue.pixels?

/-- The value of a computed property as text. -/
def computedText? (n : Node) (property : String) : Option String :=
  (n.computed? property).map StyleValue.toText

/-- The color that the text of a computed property notes; a number is no color. -/
def computedColor? (n : Node) (property : String) : Option Rgba :=
  match n.computed? property with
  | some (.text s) => Rgba.parse? s
  | _ => none

/-- The value of an inline declaration. -/
def inline? (n : Node) (property : String) : Option String := n.inlineStyle.get? property

/-- The children that carry the marker, in document order. -/
def childrenMarked (n : Node) (marker : String) : List Node :=
  n.children.filter (·.hasMarker marker)

/-! ## Size -/

mutual

/-- How many nodes the tree of a node has. -/
def weight : Node → Nat
  | ⟨_, _, _, _, _, _, _, children⟩ => 1 + weights children

/-- How many nodes the trees of a list have. -/
def weights : List Node → Nat
  | [] => 0
  | n :: ns => n.weight + weights ns

end

/-- A node weighs one more than its children. -/
theorem weight_eq (n : Node) : n.weight = 1 + weights n.children := by
  cases n; simp [weight]

/-- The weight of two lists in a row. -/
theorem weights_append (xs ys : List Node) : weights (xs ++ ys) = weights xs + weights ys := by
  induction xs with
  | nil => simp [weights]
  | cons x xs ih => simp [weights, ih, Nat.add_assoc]

end Node

end CanvasExport
