import CanvasExport.Decimal
/-!
# Spacing tokens

A length in pixels has a spacing token.  Some lengths have a token of the fixed scale; any other
token is the length in quarters, since four pixels are one step of the scale, and it stands for the
length in rem, of which one is sixteen pixels.  Both are written as exact decimals.
-/

namespace CanvasExport.Spacing

/-- The fixed scale: lengths in pixels and their tokens. -/
def scale : List (Int × String) :=
  [(0, "0"), (1, "px"), (2, "0.5"), (4, "1"), (6, "1.5"), (8, "2"), (10, "2.5"), (12, "3"),
   (14, "3.5"), (16, "4"), (20, "5"), (24, "6"), (28, "7"), (32, "8"), (36, "9"), (40, "10"),
   (44, "11"), (48, "12"), (56, "14"), (64, "16"), (80, "20"), (96, "24"), (112, "28"), (128, "32"),
   (144, "36"), (160, "40"), (176, "44"), (192, "48"), (208, "52"), (224, "56"), (240, "60"),
   (256, "64"), (288, "72"), (320, "80"), (384, "96")]

/-- The token of the fixed scale for a length in pixels. -/
def builtin? (px : Int) : Option String := scale.lookup px

/-- The exact decimal expansion of `n / 2 ^ k`. -/
def expansion (n : Int) (k : Nat) : String :=
  String.ofList (Decimal.halved (n < 0) n.natAbs k).positional

/-- The token of a length that is not on the fixed scale: its quarter. -/
def derived (px : Int) : String := expansion px 2

/-- The length in rem. -/
def rem (px : Int) : String := expansion px 4 ++ "rem"

/-- The token of a length in pixels. -/
def token (px : Int) : String := (builtin? px).getD (derived px)

/-- The token and its length, if the fixed scale lacks it. -/
def definition? (px : Int) : Option (String × String) :=
  match builtin? px with
  | some _ => none
  | none => some (derived px, rem px)

end CanvasExport.Spacing
