import CanvasExport.Binary.Text
import CanvasExport.Text.Blank
/-!
# Colors

A color has three channels of eight bits and an alpha value.  `Rgba.parse?` reads the notations of
a computed style: `#rgb`, `#rgba`, `#rrggbb`, `#rrggbbaa`, `rgb(…)`, `rgba(…)` with commas or blanks
between the components and a comma or slash before the alpha value, and `transparent`.
`Rgba.hex` writes the channels back.
-/

namespace CanvasExport

/-- A channel of eight bits. -/
abbrev Channel := Fin 256

/-- The channel with the value of a natural below 256. -/
def Channel.ofNat (n : Nat) : Channel := Fin.ofNat 256 n

/-- A color with its alpha value, which is `1` for an opaque color. -/
structure Rgba where
  red : Channel
  green : Channel
  blue : Channel
  alpha : Single
  deriving DecidableEq

namespace Rgba

/-! ## Properties -/

/-- The color that is not seen at all. -/
def transparent : Rgba := ⟨0, 0, 0, Binary.zero false⟩

/-- The color without transparency. -/
def solid (red green blue : Channel) : Rgba := ⟨red, green, blue, Binary.ofInt .single 1⟩

/-- Nothing of the color is seen. -/
def isTransparent (c : Rgba) : Bool := c.alpha.atMostZero

/-- Something behind the color is seen. -/
def hasAlpha (c : Rgba) : Bool := c.alpha.belowOne

/-- A channel as two hexadecimal digits. -/
def channelChars (c : Channel) : List Char := [Nat.digitChar (c.val / 16), Nat.digitChar (c.val % 16)]

/-- The channels in the form `#rrggbb`. -/
def hexChars (red green blue : Channel) : List Char :=
  '#' :: (channelChars red ++ channelChars green ++ channelChars blue)

/-- The channels in the form `#rrggbb`; the alpha value is not shown. -/
def hex (c : Rgba) : String := String.ofList (hexChars c.red c.green c.blue)

/-! ## Hexadecimal notation -/

/-- The value of a hexadecimal digit. -/
def hexDigit? (c : Char) : Option (Fin 16) :=
  let n := c.toNat
  if h : 48 ≤ n ∧ n ≤ 57 then some ⟨n - 48, by omega⟩
  else if h : 97 ≤ n ∧ n ≤ 102 then some ⟨n - 87, by omega⟩
  else if h : 65 ≤ n ∧ n ≤ 70 then some ⟨n - 55, by omega⟩
  else none

/-- The channel of two hexadecimal digits. -/
def ofDigitPair (high low : Fin 16) : Channel := ⟨16 * high.val + low.val, by omega⟩

/-- The alpha value of a channel: its part of 255. -/
def alphaOfChannel (c : Channel) : Single := Binary.round .single false c.val 255

/-- The color of three or four digits, each of which stands for two, or of six or eight. -/
def ofHexDigits? : List (Fin 16) → Option Rgba
  | [r, g, b] => some (solid (ofDigitPair r r) (ofDigitPair g g) (ofDigitPair b b))
  | [r, g, b, a] =>
      some ⟨ofDigitPair r r, ofDigitPair g g, ofDigitPair b b, alphaOfChannel (ofDigitPair a a)⟩
  | [r, r', g, g', b, b'] => some (solid (ofDigitPair r r') (ofDigitPair g g') (ofDigitPair b b'))
  | [r, r', g, g', b, b', a, a'] =>
      some ⟨ofDigitPair r r', ofDigitPair g g', ofDigitPair b b', alphaOfChannel (ofDigitPair a a')⟩
  | _ => none

/-! ## Functional notation -/

/-- The finite number of a component: a plain one, or a percentage that is scaled by
`percentUnit / 100`, one step after the other. -/
def component? (percentUnit : Nat) (cs : List Char) : Option Double :=
  let value := match Text.before? ['%'] cs with
    | some percentage =>
        (Binary.ofChars? .double (Text.trim percentage)).map fun (x : Double) =>
          (x.scale percentUnit 1).scale 1 100
    | none => Binary.ofChars? .double cs
  value.filter Binary.isFinite

/-- A channel: rounded, and kept within its bounds. -/
def channel? (cs : List Char) : Option Channel :=
  (component? 255 cs).map fun (x : Double) => Channel.ofNat (x.roundWithin 0 255).toNat

/-- The alpha value nearest to a number: between zero and one. -/
def alphaOf (x : Double) : Single :=
  if x.isNegative then Binary.zero false
  else if x.belowOne then x.convert .single
  else Binary.ofInt .single 1

/-- An alpha value. -/
def alpha? (cs : List Char) : Option Single := (component? 1 cs).map alphaOf

/-- The components of a color between its parentheses: separated by commas where there is a comma,
and else by blanks; the alpha value is the fourth one, or stands behind a slash. -/
def components? (body : List Char) : Option (List Char × List Char × List Char × Option (List Char)) :=
  let (channels, behind) := Text.cut '/' body
  let pieces := if channels.contains ',' then (Text.parts ',' channels).map Text.trim
    else Text.words channels
  match behind, pieces with
  | some a, [r, g, b] => some (r, g, b, some (Text.trim a))
  | none, [r, g, b, a] => some (r, g, b, some a)
  | none, [r, g, b] => some (r, g, b, none)
  | _, _ => none

/-- The color between the parentheses of `rgb(…)`. -/
def ofFunctionBody? (body : List Char) : Option Rgba := do
  let (r, g, b, a) ← components? body
  let alpha ← match a with
    | some a => alpha? a
    | none => some (Binary.ofInt .single 1)
  return ⟨← channel? r, ← channel? g, ← channel? b, alpha⟩

/-! ## All notations -/

/-- The color of a text without blanks around it, in lower case. -/
def ofChars? (cs : List Char) : Option Rgba :=
  if cs = "transparent".toList then some transparent
  else match Text.after? ['#'] cs with
    | some digits => (digits.mapM hexDigit?).bind ofHexDigits?
    | none =>
        ((Text.after? "rgba(".toList cs).or (Text.after? "rgb(".toList cs)).bind fun rest =>
          (Text.before? [')'] rest).bind ofFunctionBody?

/-- The color that a text notes, in any letter case and with blanks around it. -/
def parse? (text : String) : Option Rgba := ofChars? (Text.lower (Text.trim text.toList))

end Rgba

end CanvasExport
