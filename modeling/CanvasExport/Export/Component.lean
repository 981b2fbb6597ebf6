import CanvasExport.Artifact
import CanvasExport.Export.Walk
/-!
# Export of components

A component is exported with the parameters that its descriptor declares, each read from the attribute
of its name, and with classes that place it in its layout.
-/

namespace CanvasExport

/-! ## Placement in a grid -/

/-- A natural of 32 bits: decimal digits with an optional plus sign. -/
def natural? (cs : List Char) : Option Nat :=
  let digits := (Text.after? ['+'] cs).getD cs
  if digits.isEmpty || !digits.all Char.isDigit then none
  else
    let n := Nat.ofDigitChars 10 digits 0
    if n < 0x100000000 then some n else none

/-- The number of tracks in a text of the form `span 3`; it is positive. -/
def spanOfChars? (cs : List Char) : Option Nat :=
  (Text.after? "span".toList (Text.trim cs)).bind fun rest =>
    (natural? (Text.trim rest)).filter (0 < ·)

namespace Node

/-- The grid line on which a component starts, as it is given, or else `auto`. -/
def gridStart (n : Node) (property : String) : String :=
  match n.computedText? property with
  | none => "auto"
  | some text =>
      let line := Text.trim text.toList
      if line.isEmpty then "auto" else String.ofList line

/-- The number of tracks that a component spans, by default one. -/
def gridSpan (n : Node) (property : String) : Nat :=
  ((n.computedText? property).bind fun text => spanOfChars? text.toList).getD 1

/-- The value of an attribute that is not empty. -/
def filledAttribute? (n : Node) (name : String) : Option String :=
  (n.attribute? name).filter fun value => !value.isEmpty

/-! ## Classes -/

/-- The classes that place a component in a layout.  In a flexbox the layout does it. -/
def placementClasses (n : Node) : LayoutKind → Walk (List String)
  | .free => do
      let top ← .request (.spacing (Pixels.truncate (n.computedPixels? "top")))
      let left ← .request (.spacing (Pixels.truncate (n.computedPixels? "left")))
      return ["absolute", "top-" ++ top, "left-" ++ left]
  | .grid =>
      return ["w-full", "h-full",
        "col-start-" ++ n.gridStart "grid-column-start",
        "col-span-" ++ toString (n.gridSpan "grid-column-end"),
        "row-start-" ++ n.gridStart "grid-row-start",
        "row-span-" ++ toString (n.gridSpan "grid-row-end")]
  | .flex => return []

end Node

/-! ## Components -/

namespace Component

/-- Reads one parameter more into the properties and the text inside the component. -/
def readParameter (n : Node) (read : Props × Option String) (p : Parameter) :
    Props × Option String :=
  let value := n.filledAttribute? p.name
  if p.isInnerText then (read.1, value) else (read.1.insert p.name value, read.2)

/-- The properties of a component and the text inside it, from its declared parameters in order. -/
def readParameters (d : Descriptor) (n : Node) : Props × Option String :=
  d.parameters.foldl (readParameter n) (.empty, none)

/-- Exports a component with a descriptor. -/
def ofDescribed (d : Descriptor) (layout : LayoutKind) (n : Node) : Walk Component := do
  let classes ← n.placementClasses layout
  let (props, innerText) := readParameters d n
  return { name := d.tag, id := n.id, data := { props, classes, innerText } }

/-- Exports a component with its descriptor in the registry. -/
def ofNode (registry : Registry) (layout : LayoutKind) (n : Node) : Walk Component :=
  match registry.descriptorOf? n with
  | some d => ofDescribed d layout n
  | none => .fail (.schemaMissing n.id n.tag)

end Component

end CanvasExport
