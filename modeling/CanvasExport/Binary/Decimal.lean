import CanvasExport.Binary.Round
import CanvasExport.Decimal
/-!
# Binary numbers in decimal

`Binary.ofDecimal` reads a decimal as the nearest number of a format.  `Binary.shortest` goes the
other way: of all decimals that read back as the number it gives one with the fewest digits, and of
those the nearest.  That it reads back holds by construction, since each candidate is tested by
reading it.
-/

namespace CanvasExport

-- powers of naturals are the core library's
attribute [local instance (2000)] instPowNat

namespace Binary

variable {f : Format}

/-! ## From a decimal -/

/-- The number nearest to a decimal.  A power of ten far beyond the format settles the result, so
that no huge power has to be computed. -/
def ofDecimal (f : Format) (d : Decimal) : Binary f :=
  if d.significand = 0 then zero d.negative
  else if f.maxExponent + f.precision < d.exponent then .infinite d.negative
  else if (d.significand.log2 : Int) + 1 + 3 * d.exponent < f.minExponent - 1 then zero d.negative
  else
    round f d.negative (d.significand * 10 ^ d.exponent.toNat) (10 ^ (-d.exponent).toNat)

/-! ## To the shortest decimal -/

/-- Which of two decimals at the same distance is taken. -/
inductive Tie
  /-- The greater magnitude. -/
  | up
  /-- The one with the even last digit. -/
  | even
  deriving DecidableEq, Repr

/-- The power of ten just above a positive quotient: the least `k` with `num / den < 10 ^ k`. -/
def decimalPoint (num den : Nat) : Int :=
  let k : Int := ((Nat.toDigits 10 num).length : Int) - (Nat.toDigits 10 den).length
  if num * 10 ^ (-k).toNat < den * 10 ^ k.toNat then k else k + 1

/-- Of the two multiples of `10 ^ exponent` around `num / den` the one that reads back as `x`, or
the nearer one where both do. -/
def readsBackAt (tie : Tie) (x : Binary f) (num den : Nat) (exponent : Int) : Option Decimal :=
  let a := num * 10 ^ (-exponent).toNat
  let b := den * 10 ^ exponent.toNat
  let below : Decimal := ⟨false, a / b, exponent⟩
  let above : Decimal := ⟨false, a / b + 1, exponent⟩
  let twice := 2 * (a % b)
  if ofDecimal f below = x then
    if ofDecimal f above = x then
      some <|
        if twice < b then below
        else if b < twice then above
        else match tie with
          | .up => above
          | .even => if a / b % 2 = 0 then below else above
    else some below
  else if ofDecimal f above = x then some above
  else none

/-- The decimal expansion of a finite magnitude. -/
def expansion (significand : Nat) (exponent : Int) : Decimal :=
  if 0 ≤ exponent then Decimal.normalize ⟨false, significand * 2 ^ exponent.toNat, 0⟩
  else Decimal.halved false significand (-exponent).toNat

/-- A decimal with the fewest digits that reads back as the positive number `significand · 2 ^
exponent`, and the nearest of those. -/
def shortestMagnitude (tie : Tie) (significand : Nat) (exponent : Int)
    (h : f.Canonical significand exponent) : Decimal :=
  let (num, den) := ratio significand exponent
  let point := decimalPoint num den
  let x : Binary f := .finite false significand exponent h
  match (List.range f.maxDigits).findSome? fun (digits : Nat) =>
      readsBackAt tie x num den (point - (digits + 1)) with
  | some d => d.normalize
  | none => expansion significand exponent

/-- A decimal with the fewest digits that reads back as the finite number. -/
def shortest (tie : Tie) (negative : Bool) (significand : Nat) (exponent : Int)
    (h : f.Canonical significand exponent) : Decimal :=
  if significand = 0 then ⟨negative, 0, 0⟩
  else { shortestMagnitude tie significand exponent h with negative := negative }

end Binary

end CanvasExport
