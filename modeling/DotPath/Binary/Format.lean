import DotPath.Power

/-!
Binary floating-point formats and their data.  A finite datum is a sign, a natural significand and
the exponent of its unit; the canonical form makes the three unique, so two finite data are equal
exactly when they are the same number with the same sign.
-/

set_option autoImplicit false
set_option relaxedAutoImplicit false

namespace DotPath.Binary

/-- A binary format: the bits of a significand, the width of the exponent field, and the least and
the greatest exponent of a unit. -/
structure Format where
  precision : Nat
  exponentBits : Nat
  minExponent : Int
  maxExponent : Int
  min_le_max : minExponent ≤ maxExponent := by decide

def binary64 : Format where
  precision := 53
  exponentBits := 11
  minExponent := -1074
  maxExponent := 971

def binary32 : Format where
  precision := 24
  exponentBits := 8
  minExponent := -149
  maxExponent := 104

/-- The significand fits, the unit is in range, and the leading bit is set unless the unit is the
least one. -/
def Format.Canonical (f : Format) (significand : Nat) (exponent : Int) : Prop :=
  significand < 2 ^ f.precision ∧ f.minExponent ≤ exponent ∧ exponent ≤ f.maxExponent ∧
    (exponent = f.minExponent ∨ 2 ^ (f.precision - 1) ≤ significand)

instance (f : Format) (significand : Nat) (exponent : Int) :
    Decidable (f.Canonical significand exponent) :=
  inferInstanceAs (Decidable (_ ∧ _ ∧ _ ∧ (_ ∨ _)))

/-- A finite datum: the significand times two to the exponent, with a sign of its own, so that zero
has one of each sign. -/
structure Finite (f : Format) where
  negative : Bool
  significand : Nat
  exponent : Int
  canonical : f.Canonical significand exponent
  deriving DecidableEq

inductive Datum (f : Format) where
  | nan
  | infinite (negative : Bool)
  | finite (number : Finite f)
  deriving DecidableEq

namespace Finite

variable {f : Format}

def zero (f : Format) (negative : Bool) : Finite f where
  negative := negative
  significand := 0
  exponent := f.minExponent
  canonical := ⟨Nat.two_pow_pos _, Int.le_refl _, f.min_le_max, Or.inl rfl⟩

/-- The magnitude of a finite datum as a quotient of natural numbers. -/
def ratio (x : Finite f) : Nat × Nat :=
  (x.significand * 2 ^ x.exponent.toNat, 2 ^ (-x.exponent).toNat)

def toRat (x : Finite f) : Rat :=
  let magnitude := mkRat x.ratio.1 x.ratio.2
  if x.negative then -magnitude else magnitude

def toInt? (x : Finite f) : Option Int :=
  let (numerator, denominator) := x.ratio
  if numerator % denominator = 0 then
    some (if x.negative then -(numerator / denominator : Nat) else (numerator / denominator : Nat))
  else none

def isZero (x : Finite f) : Bool :=
  x.significand == 0

end Finite

/-- The bits of a datum: sign, exponent field and trailing significand, from the highest down. -/
def Datum.bits {f : Format} : Datum f → Nat
  | .nan => (2 ^ f.exponentBits - 1) * 2 ^ (f.precision - 1) + 2 ^ (f.precision - 2)
  | .infinite negative =>
      signBit negative + (2 ^ f.exponentBits - 1) * 2 ^ (f.precision - 1)
  | .finite x =>
      let hidden := 2 ^ (f.precision - 1)
      if x.significand < hidden then signBit x.negative + x.significand
      else signBit x.negative + (x.exponent - f.minExponent + 1).toNat * hidden
        + (x.significand - hidden)
where
  signBit (negative : Bool) : Nat :=
    if negative then 2 ^ (f.exponentBits + f.precision - 1) else 0

end DotPath.Binary
