import CanvasExport.Descriptor
import CanvasExport.Json.Read
import CanvasExport.Json.Value
/-!
# Component descriptors in JSON

A descriptor is a record of its tag and its parameters; a parameter is a record of its name and its
data type.
-/

namespace CanvasExport

open Json

namespace DataType

/-- The data types by name. -/
def variants : List (String × DataType) :=
  [("color", .color), ("text", .text), ("number", .number), ("boolean", .boolean),
   ("layout_style", .layoutStyle)]

/-- The name of a data type. -/
def name : DataType → String
  | .color => "color"
  | .text => "text"
  | .number => "number"
  | .boolean => "boolean"
  | .layoutStyle => "layout_style"

end DataType

namespace Parameter

/-- The fields of a parameter, inside of which so many containers may be opened. -/
def shape (depth : Nat) : Shape Parameter where
  name := "ComponentParameter"
  start := ⟨"", .text⟩
  fields :=
    [.of "name" .required readText fun name p => { p with name },
     .of "data_type" .required (readVariant DataType.variants depth)
       fun dataType p => { p with dataType }]

/-- Reads a parameter. -/
def read (depth : Nat) (t : Tree) : Result Parameter := (shape (depth - 1)).read depth t

/-- The parameter in JSON. -/
def toJson (p : Parameter) : Json :=
  .object [("name", .string p.name), ("data_type", .string p.dataType.name)]

end Parameter

namespace Descriptor

/-- The fields of a descriptor, inside of which so many containers may be opened. -/
def shape (depth : Nat) : Shape Descriptor where
  name := "ComponentDescriptor"
  start := { tag := "" }
  fields :=
    [.of "tag_name" .required readText fun tag d => { d with tag },
     .of "parameters" .defaulted (readList depth (Parameter.read (depth - 1)))
       fun parameters d => { d with parameters }]

/-- Reads a descriptor. -/
def read (depth : Nat) (t : Tree) : Result Descriptor := (shape (depth - 1)).read depth t

/-- The descriptor in JSON. -/
def toJson (d : Descriptor) : Json :=
  .object [("tag_name", .string d.tag), ("parameters", .array (d.parameters.map Parameter.toJson))]

end Descriptor

end CanvasExport
