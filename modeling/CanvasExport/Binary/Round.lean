import CanvasExport.Binary.Basic
/-!
# Rounding to a format

`Binary.round` takes an exact quotient to the nearest number of a format, a tie to the number with
the even significand.  Every number the library reads or computes is rounded once, by this function.
The other direction, from a number to an integer, rounds half away from zero or cuts off the
fraction, and keeps within the bounds it is given.
-/

namespace CanvasExport

-- powers of naturals are the core library's
attribute [local instance (2000)] instPowNat

/-! ## Quotients of naturals -/

/-- The quotient `a / b` rounded to the nearest natural, a half to the even neighbour. -/
def divNearestEven (a b : Nat) : Nat :=
  let q := a / b
  let r := a % b
  if 2 * r < b then q
  else if b < 2 * r then q + 1
  else q + q % 2

/-- An exact quotient is left alone. -/
theorem divNearestEven_mul_left (q : Nat) {b : Nat} (hb : 0 < b) : divNearestEven (b * q) b = q := by
  simp [divNearestEven, Nat.mul_div_cancel_left q hb, hb]

/-- Rounding moves a quotient by at most a half, from below. -/
theorem le_two_mul_divNearestEven (a : Nat) {b : Nat} (hb : 0 < b) :
    2 * a ≤ 2 * (b * divNearestEven a b) + b := by
  have h := Nat.div_add_mod a b
  unfold divNearestEven
  dsimp only
  have hr := Nat.mod_lt a hb
  split
  · omega
  · split
    · rw [Nat.mul_add]; omega
    · have : b * (a / b) ≤ b * (a / b + a / b % 2) := Nat.mul_le_mul_left b (Nat.le_add_right _ _)
      omega

/-- The greatest `k` with `2 ^ k ≤ num / den`, for a positive quotient. -/
def log2Ratio (num den : Nat) : Int :=
  let k : Int := (num.log2 : Int) - den.log2
  if den * 2 ^ k.toNat ≤ num * 2 ^ (-k).toNat then k else k - 1

/-! ## Rounding to the nearest number -/

namespace Binary

variable {f : Format}

/-- The exponent of the last bit that the format keeps of `num / den`. -/
def lastBit (f : Format) (num den : Nat) : Int :=
  if num = 0 then f.minExponent
  else max f.minExponent (log2Ratio num den - (f.precision - 1 : Nat))

/-- The number nearest to `± num / den`, ties to the even significand. -/
def round (f : Format) (negative : Bool) (num den : Nat) : Binary f :=
  let e := lastBit f num den
  let m := divNearestEven (num * 2 ^ (-e).toNat) (den * 2 ^ e.toNat)
  if m = 2 ^ f.precision then ofParts negative (2 ^ (f.precision - 1)) (e + 1)
  else ofParts negative m e

/-- The number nearest to an integer. -/
def ofInt (f : Format) (n : Int) : Binary f := round f (n < 0) n.natAbs 1

/-- The same number in another format, rounded where it has to be. -/
def convert (g : Format) : Binary f → Binary g
  | .nan => .nan
  | .infinite negative => .infinite negative
  | .finite negative m e _ => round g negative (ratio m e).1 (ratio m e).2

/-- The number times `num / den`, rounded. -/
def scale (num den : Nat) : Binary f → Binary f
  | .nan => .nan
  | .infinite negative => .infinite negative
  | .finite negative m e _ => round f negative ((ratio m e).1 * num) ((ratio m e).2 * den)

/-! ## Rounding to an integer -/

/-- The nearest integer, a half away from zero. -/
def nearestInt (negative : Bool) (significand : Nat) (exponent : Int) : Int :=
  let (num, den) := ratio significand exponent
  signed negative ((2 * num + den) / (2 * den))
where
  /-- A magnitude with its sign. -/
  signed (negative : Bool) (n : Nat) : Int := if negative then -n else n

/-- The integer without the fraction. -/
def truncatedInt (negative : Bool) (significand : Nat) (exponent : Int) : Int :=
  let (num, den) := ratio significand exponent
  nearestInt.signed negative (num / den)

/-- The integer nearest to `n` between `lo` and `hi`. -/
def clampInt (lo hi n : Int) : Int := max lo (min hi n)

/-- The integer that `whole` makes of sign, significand and exponent, between `lo` and `hi`; an undefined
number counts as zero. -/
def wholeWithin (whole : Bool → Nat → Int → Int) (lo hi : Int) : Binary f → Int
  | .nan => clampInt lo hi 0
  | .infinite negative => if negative then lo else hi
  | .finite negative m e _ => clampInt lo hi (whole negative m e)

/-- The nearest integer between `lo` and `hi`. -/
def roundWithin (lo hi : Int) (x : Binary f) : Int := x.wholeWithin nearestInt lo hi

/-- The integer without the fraction, between `lo` and `hi`. -/
def truncateWithin (lo hi : Int) (x : Binary f) : Int := x.wholeWithin truncatedInt lo hi

end Binary

end CanvasExport
