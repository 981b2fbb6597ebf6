/-!
# Decimal numbers and their written forms

A `Decimal` is a sign, a significand and a power of ten.  `Decimal.ofChars?` reads the usual written
forms (`12`, `-0.5`, `5.`, `.5`, `1e3`); `positional` writes all digits out, `scientific` writes one
digit before the point and the power of ten.  `halved` is the decimal expansion of an integer over a
power of two, which is always finite.
-/

namespace CanvasExport

-- powers of naturals are the core library's
attribute [local instance (2000)] instPowNat

/-- The number `± significand · 10 ^ exponent`. -/
structure Decimal where
  /-- Whether the sign is a minus. -/
  negative : Bool
  /-- The digits, read as one natural. -/
  significand : Nat
  /-- The power of ten of the last digit. -/
  exponent : Int
  deriving DecidableEq, Repr

namespace Decimal

/-! ## Reading -/

/-- A sign, if there is one, and what follows it. -/
def splitSign : List Char → Bool × List Char
  | '-' :: rest => (true, rest)
  | '+' :: rest => (false, rest)
  | rest => (false, rest)

/-- A natural with an optional sign; at least one digit, and nothing but digits. -/
def int? (cs : List Char) : Option Int :=
  let (negative, digits) := splitSign cs
  if digits.isEmpty || !digits.all Char.isDigit then none
  else
    let n := Nat.ofDigitChars 10 digits 0
    some (if negative then -n else n)

/-- The power of ten that follows the digits: none, or `e` and an integer. -/
def power? : List Char → Option Int
  | [] => some 0
  | c :: rest => if c = 'e' ∨ c = 'E' then int? rest else none

/-- The digits after the point, if there is a point, and what follows them. -/
def splitFraction : List Char → List Char × List Char
  | '.' :: rest => (rest.takeWhile Char.isDigit, rest.dropWhile Char.isDigit)
  | rest => ([], rest)

/-- The decimal that the text writes: a sign, digits around a point of which there is at least one,
and a power of ten.  Only the digits are needed. -/
def ofChars? (cs : List Char) : Option Decimal :=
  let (negative, body) := splitSign cs
  let whole := body.takeWhile Char.isDigit
  let (fraction, rest) := splitFraction (body.dropWhile Char.isDigit)
  if whole.isEmpty && fraction.isEmpty then none
  else
    (power? rest).map fun power =>
      ⟨negative, Nat.ofDigitChars 10 (whole ++ fraction) 0, power - fraction.length⟩

/-! ## Values -/

/-- How many zeros the decimal digits of a natural end in. -/
def trailingZeros (n : Nat) : Nat :=
  ((Nat.toDigits 10 n).reverse.takeWhile (· == '0')).length

/-- The same number without zeros at the end of the significand; zero has the power `0`. -/
def normalize (d : Decimal) : Decimal :=
  if d.significand = 0 then ⟨d.negative, 0, 0⟩
  else
    let zeros := trailingZeros d.significand
    ⟨d.negative, d.significand / 10 ^ zeros, d.exponent + zeros⟩

/-- The decimal expansion of `± n / 2 ^ k`: a half of ten is five. -/
def halved (negative : Bool) (n k : Nat) : Decimal :=
  normalize ⟨negative, n * 5 ^ k, -k⟩

/-- The power of ten of the first digit. -/
def leadingExponent (d : Decimal) : Int :=
  (Nat.toDigits 10 d.significand).length - 1 + d.exponent

/-! ## Writing -/

/-- The minus sign of a negative number. -/
def signChars (negative : Bool) : List Char := if negative then ['-'] else []

/-- The digits of a natural, with zeros in front up to the width. -/
def padded (width n : Nat) : List Char :=
  let digits := Nat.toDigits 10 n
  List.replicate (width - digits.length) '0' ++ digits

/-- All digits written out, with a point only where a fraction follows. -/
def positional (d : Decimal) : List Char :=
  signChars d.negative ++
    if 0 ≤ d.exponent then
      Nat.toDigits 10 d.significand ++ List.replicate d.exponent.toNat '0'
    else
      let places := (-d.exponent).toNat
      Nat.toDigits 10 (d.significand / 10 ^ places) ++
        '.' :: padded places (d.significand % 10 ^ places)

/-- One digit before the point, the others behind it, and the power of ten with its sign. -/
def scientific (d : Decimal) : List Char :=
  let power := d.leadingExponent
  let mantissa := match Nat.toDigits 10 d.significand with
    | first :: second :: rest => first :: '.' :: second :: rest
    | digits => digits
  signChars d.negative ++ mantissa ++
    'e' :: (if power < 0 then '-' else '+') :: Nat.toDigits 10 power.natAbs

end Decimal

end CanvasExport
