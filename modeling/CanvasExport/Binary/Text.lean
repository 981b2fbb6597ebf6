import CanvasExport.Binary.Decimal
/-!
# The text of a binary number

`Binary.toText` writes all digits of the shortest decimal out, as tokens and style values need it;
`Binary.numeral?` writes the same decimal as a JSON number, with a power of ten where the digits
would be far from the point, and with nothing for what JSON cannot say.  `Binary.ofText?` reads text.
-/

namespace CanvasExport

namespace Binary

variable {f : Format}

/-! ## Plain text -/

/-- The text of a number: the fewest digits that read back, a tie going up, without a power of
ten. -/
def toChars : Binary f → List Char
  | .nan => "NaN".toList
  | .infinite negative => Decimal.signChars negative ++ "inf".toList
  | .finite negative m e h => (shortest .up negative m e h).positional

/-- The text of a number as a string. -/
def toText (x : Binary f) : String := String.ofList x.toChars

/-- The words for what is not finite, in lower case. -/
def ofWord? (f : Format) (negative : Bool) (word : List Char) : Option (Binary f) :=
  if word = "inf".toList ∨ word = "infinity".toList then some (.infinite negative)
  else if word = "nan".toList then some .nan
  else none

/-- The number that the characters write: a decimal, rounded, or a word in any letter case. -/
def ofChars? (f : Format) (cs : List Char) : Option (Binary f) :=
  match Decimal.ofChars? cs with
  | some d => some (ofDecimal f d)
  | none =>
      let (negative, word) := Decimal.splitSign cs
      ofWord? f negative (word.map Char.toLower)

/-- The number that a text writes. -/
def ofText? (f : Format) (text : String) : Option (Binary f) := ofChars? f text.toList

/-! ## JSON numbers -/

/-- Between which powers of ten the first digit of a JSON number stands where all its digits are
written out. -/
structure Positional where
  least : Int
  greatest : Int

/-- The bounds for numbers of double precision. -/
def Positional.double : Positional := ⟨-5, 15⟩

/-- The bounds for numbers of single precision. -/
def Positional.single : Positional := ⟨-6, 12⟩

/-- A decimal as a JSON number: positional within the bounds, with at least one digit after the
point, and otherwise with a power of ten. -/
def numeralOf (bounds : Positional) (d : Decimal) : List Char :=
  if d.significand = 0 ∨ (bounds.least ≤ d.leadingExponent ∧ d.leadingExponent ≤ bounds.greatest) then
    d.positional ++ if 0 ≤ d.exponent then ['.', '0'] else []
  else d.scientific

/-- The number as a JSON number: the fewest digits that read back, a tie going to the even one.
Only finite numbers have one. -/
def numeral? (bounds : Positional) : Binary f → Option (List Char)
  | .finite negative m e h => some (numeralOf bounds (shortest .even negative m e h))
  | _ => none

end Binary

end CanvasExport
