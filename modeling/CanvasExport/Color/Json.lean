import CanvasExport.Color
import CanvasExport.Json.Read
import CanvasExport.Json.Value
/-!
# Colors in JSON

A color is a record of its channels and its alpha value.
-/

namespace CanvasExport

open Json

/-- Reads a channel: an integer from 0 to 255. -/
def readChannel : Tree → Result Channel
  | .number literal => do
      match ← Numeric.ofLiteral literal with
      | .integer n =>
          if 0 ≤ n ∧ n < 256 then return Channel.ofNat n.toNat
          else throw (.mismatch (.wrongValue n "u8"))
      | .real x => throw (.mismatch (.wrongType (.real x) "u8"))
  | t => t.refuse "u8"

/-- Reads a number of single precision. -/
def readSingle : Tree → Result Single
  | .number literal => return (← Numeric.ofLiteral literal).toBinary .single
  | t => t.refuse "f32"

namespace Rgba

/-- The fields of a color. -/
def shape : Shape Rgba where
  name := "Rgba"
  start := transparent
  fields :=
    [.of "r" .required readChannel fun red c => { c with red },
     .of "g" .required readChannel fun green c => { c with green },
     .of "b" .required readChannel fun blue c => { c with blue },
     .of "a" .required readSingle fun alpha c => { c with alpha }]

/-- Reads a color. -/
def read (depth : Nat) (t : Tree) : Result Rgba := shape.read depth t

/-- The color in JSON. -/
def toJson (c : Rgba) : Json :=
  .object
    [("r", .ofNat c.red), ("g", .ofNat c.green), ("b", .ofNat c.blue), ("a", .ofBinary .single c.alpha)]

end Rgba

end CanvasExport
