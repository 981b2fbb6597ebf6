import CanvasExport.Binary.Round
import CanvasExport.Binary.Text
import CanvasExport.Text.Blank
/-!
# Style values and lengths

The value of a computed style property is a bare number or a text.  Both can be read as a length in
pixels and shown as text.  Lengths are exported in whole pixels of 32 bits with a sign (`Pixels.round`,
`Pixels.truncate`).
-/

namespace CanvasExport

/-- A computed style value. -/
inductive StyleValue
  /-- A bare number; a length in pixels. -/
  | number (value : Double)
  /-- A text such as `32px`, `span 3` or `rgb(0, 0, 0)`. -/
  | text (value : String)
  deriving DecidableEq

namespace StyleValue

/-- The number that a text of the form `12.5px` or `12.5` writes, with blanks around number and
unit. -/
def pixelsOfChars? (cs : List Char) : Option Double :=
  let cs := Text.trim cs
  let number := (Text.before? ['p', 'x'] cs).getD cs
  (Binary.ofChars? .double (Text.trim number)).filter Binary.isFinite

/-- The value as a finite length in pixels. -/
def pixels? : StyleValue → Option Double
  | .number x => if x.isFinite then some x else none
  | .text s => pixelsOfChars? s.toList

/-- The value as text. -/
def toText : StyleValue → String
  | .number x => x.toText
  | .text s => s

end StyleValue

/-! ## Whole pixels -/

namespace Pixels

/-- The least number of pixels. -/
def least : Int := -0x80000000

/-- The greatest number of pixels. -/
def greatest : Int := 0x7FFFFFFF

/-- The number of pixels that `whole` makes of a length; a missing length is zero. -/
def ofLength (whole : Bool → Nat → Int → Int) : Option Double → Int
  | none => 0
  | some x => x.wholeWithin whole least greatest

/-- The nearest number of pixels, a half away from zero. -/
def round (length : Option Double) : Int := ofLength Binary.nearestInt length

/-- The number of pixels without the fraction. -/
def truncate (length : Option Double) : Int := ofLength Binary.truncatedInt length

end Pixels

end CanvasExport
