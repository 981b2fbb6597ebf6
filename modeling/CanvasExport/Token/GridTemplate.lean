import CanvasExport.Binary.Text
import CanvasExport.Text.Blank
/-!
# Grid templates

A grid repeats cells of one size along each axis.  `cell?` reads the size from a declaration of the
form `repeat(auto-fill, 120px)`; `token` names the template of a size and `declaration` writes it.
-/

namespace CanvasExport

/-- An axis of a grid. -/
inductive Axis
  | columns
  | rows
  deriving DecidableEq, Repr

namespace Axis

/-- The inline property with the template of the axis. -/
def property : Axis → String
  | .columns => "grid-template-columns"
  | .rows => "grid-template-rows"

/-- What a class for a template of the axis starts with. -/
def classStem : Axis → String
  | .columns => "grid-cols-"
  | .rows => "grid-rows-"

end Axis

namespace GridTemplate

/-- The cell size that a length in pixels and a closing parenthesis give; it is finite and
positive. -/
def size? (cs : List Char) : Option Double := do
  let inside ← Text.before? [')'] cs
  let number ← Text.before? ['p', 'x'] (Text.trimEnd inside)
  (Binary.ofChars? .double (Text.trim number)).filter fun x => x.isFinite && x.isPositive

/-- The cell size of a template: the part behind its only comma. -/
def cellOfChars? (cs : List Char) : Option Double :=
  match Text.parts ',' cs with
  | [head, size] =>
      if Text.trim head = "repeat(auto-fill".toList then size? (Text.trim size) else none
  | _ => none

/-- The cell size of a template of the form `repeat(auto-fill, <size>px)`. -/
def cell? (template : String) : Option Double := cellOfChars? template.toList

/-- The token for a cell size. -/
def token (size : Double) : String := "auto-" ++ size.toText ++ "px"

/-- The template for a cell size. -/
def declaration (size : Double) : String := "repeat(auto-fill, " ++ size.toText ++ "px)"

end GridTemplate

end CanvasExport
