/-!
# Binary floating point numbers

A `Format` fixes how many bits a significand has and how far its exponent reaches; a `Binary f` is a
number of that format: not a number, an infinity, or `± significand · 2 ^ exponent` in canonical
form.  Since the form is canonical, two finite numbers are the same number with the same sign of
zero exactly when they are equal.

The two formats in use are `Double` (53 bits) and `Single` (24 bits).
-/

namespace CanvasExport

-- powers of naturals are the core library's
attribute [local instance (2000)] instPowNat

/-! ## Formats -/

/-- The bits of a significand, and the exponents of its last bit. -/
structure Format where
  /-- How many bits a significand has. -/
  precision : Nat
  /-- The exponent of the last bit of the smallest numbers. -/
  minExponent : Int
  /-- The exponent of the last bit of the largest numbers. -/
  maxExponent : Int
  /-- Zero has a place in the format. -/
  ordered : minExponent ≤ maxExponent := by decide

namespace Format

/-- Double precision: 53 bits, from `2 ^ -1074` on. -/
def double : Format := { precision := 53, minExponent := -1074, maxExponent := 971 }

/-- Single precision: 24 bits, from `2 ^ -149` on. -/
def single : Format := { precision := 24, minExponent := -149, maxExponent := 104 }

/-- The form that each magnitude has once: the significand fills all bits, except where the exponent
is the least one. -/
def Canonical (f : Format) (significand : Nat) (exponent : Int) : Prop :=
  significand < 2 ^ f.precision ∧ f.minExponent ≤ exponent ∧ exponent ≤ f.maxExponent ∧
    (exponent = f.minExponent ∨ 2 ^ (f.precision - 1) ≤ significand)

instance (f : Format) (m : Nat) (e : Int) : Decidable (f.Canonical m e) := by
  unfold Canonical; infer_instance

/-- Zero is written with the least exponent. -/
theorem canonical_zero (f : Format) : f.Canonical 0 f.minExponent :=
  ⟨Nat.two_pow_pos _, Int.le_refl _, f.ordered, .inl rfl⟩

/-- So many decimal digits tell any two numbers of the format apart. -/
def maxDigits (f : Format) : Nat := f.precision * 30103 / 100000 + 2

end Format

/-! ## Numbers -/

/-- A number of the format `f`. -/
inductive Binary (f : Format)
  /-- The result of an undefined operation. -/
  | nan
  /-- A magnitude beyond the format. -/
  | infinite (negative : Bool)
  /-- The number `± significand · 2 ^ exponent`. -/
  | finite (negative : Bool) (significand : Nat) (exponent : Int)
      (canonical : f.Canonical significand exponent)
  deriving DecidableEq

/-- Numbers of double precision. -/
abbrev Double := Binary .double

/-- Numbers of single precision. -/
abbrev Single := Binary .single

namespace Binary

variable {f : Format}

/-- Zero, with its sign. -/
def zero (negative : Bool) : Binary f := .finite negative 0 f.minExponent f.canonical_zero

instance : Inhabited (Binary f) := ⟨zero false⟩

/-- The number with this sign, significand and exponent; what is beyond the format is infinite. -/
def ofParts (negative : Bool) (significand : Nat) (exponent : Int) : Binary f :=
  if h : f.Canonical significand exponent then .finite negative significand exponent h
  else .infinite negative

theorem ofParts_eq_finite {negative : Bool} {m : Nat} {e : Int} (h : f.Canonical m e) :
    (ofParts negative m e : Binary f) = .finite negative m e h := dif_pos h

/-- Neither an infinity nor undefined. -/
def isFinite : Binary f → Bool
  | .finite .. => true
  | _ => false

/-- Greater than zero. -/
def isPositive : Binary f → Bool
  | .nan => false
  | .infinite negative => !negative
  | .finite negative m _ _ => !negative && m != 0

/-- Less than zero. -/
def isNegative : Binary f → Bool
  | .nan => false
  | .infinite negative => negative
  | .finite negative m _ _ => negative && m != 0

/-- The magnitude of a finite number as a quotient of two naturals. -/
def ratio (significand : Nat) (exponent : Int) : Nat × Nat :=
  (significand * 2 ^ exponent.toNat, 2 ^ (-exponent).toNat)

/-- At most zero. -/
def atMostZero (x : Binary f) : Bool :=
  match x with
  | .nan => false
  | x => !x.isPositive

/-- Less than one. -/
def belowOne : Binary f → Bool
  | .nan => false
  | .infinite negative => negative
  | .finite negative m e _ => negative || decide ((ratio m e).1 < (ratio m e).2)

/-! ## Bit patterns -/

/-- The number's bits as they are stored: sign, exponent field, fraction. -/
def bits (width : Nat) : Binary f → Nat
  | .nan => (2 ^ (width - f.precision + 1) - 1) * 2 ^ (f.precision - 2)
  | .infinite negative =>
      sign negative + (2 ^ (width - f.precision) - 1) * 2 ^ (f.precision - 1)
  | .finite negative m e _ =>
      let field := if m < 2 ^ (f.precision - 1) then 0 else (e - f.minExponent + 1).toNat
      let fraction := if m < 2 ^ (f.precision - 1) then m else m - 2 ^ (f.precision - 1)
      sign negative + field * 2 ^ (f.precision - 1) + fraction
where
  /-- The sign takes the first bit. -/
  sign (negative : Bool) : Nat := if negative then 2 ^ (width - 1) else 0

end Binary

end CanvasExport
