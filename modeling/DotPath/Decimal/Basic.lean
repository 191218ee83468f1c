import DotPath.Text.Digits

/-!
Decimal fractions of bounded size: a coefficient below `2 ^ 96` over a power of ten of at most 28.
The scale is part of the value, so that trailing zeros are kept and shown.  Zero as such has no
sign; only a number that is rounded to zero keeps its own.
-/

set_option autoImplicit false
set_option relaxedAutoImplicit false

namespace DotPath

def Decimal.coefficientBound : Nat := 2 ^ (96 : Nat)

def Decimal.maxScale : Nat := 28

structure Decimal where
  negative : Bool
  coefficient : Nat
  scale : Nat
  coefficient_lt : coefficient < Decimal.coefficientBound
  scale_le : scale ≤ Decimal.maxScale
  deriving DecidableEq

namespace Decimal

/-- The decimal with the given parts, if they are within bounds; the sign of zero is dropped. -/
def ofParts? (negative : Bool) (coefficient scale : Nat) : Option Decimal :=
  if bounds : coefficient < coefficientBound ∧ scale ≤ maxScale then
    some
      { negative := negative && coefficient != 0
        coefficient
        scale
        coefficient_lt := bounds.1
        scale_le := bounds.2 }
  else none

def signedCoefficient (d : Decimal) : Int :=
  if d.negative then -d.coefficient else d.coefficient

def toRat (d : Decimal) : Rat :=
  mkRat d.signedCoefficient (10 ^ d.scale)

/-- The decimal one unit of the last possible place farther from zero in the direction given, if it
is within bounds. -/
def awayByUlp? (d : Decimal) (down : Bool) : Option Decimal :=
  let unit : Int := if down then -1 else 1
  let widened := d.signedCoefficient * 10 ^ (maxScale - d.scale) + unit
  ofParts? (widened < 0) widened.natAbs maxScale

private theorem rounded_le (coefficient : Nat) {lost : Nat} (pos : 0 < lost) :
    (2 * coefficient + lost) / (2 * lost) ≤ coefficient := by
  have le : coefficient ≤ coefficient * lost := Nat.le_mul_of_pos_right coefficient pos
  refine Nat.le_of_lt_succ (Nat.div_lt_of_lt_mul ?_)
  rw [Nat.mul_succ, Nat.mul_assoc, Nat.mul_comm lost]
  omega

/-- A decimal divided by ten to a power.  Places past the last possible one are rounded away, a half
going away from zero; the sign stays. -/
def shiftRight (d : Decimal) (power : Nat) : Decimal :=
  let lost := 10 ^ (d.scale + power - maxScale)
  { negative := d.negative
    coefficient := (2 * d.coefficient + lost) / (2 * lost)
    scale := min (d.scale + power) maxScale
    coefficient_lt :=
      Nat.lt_of_le_of_lt (rounded_le d.coefficient (Nat.pow_pos (by decide))) d.coefficient_lt
    scale_le := Nat.min_le_right .. }

def text (d : Decimal) : List Char :=
  let digits := Text.paddedDigits (d.scale + 1) d.coefficient
  let whole := digits.take (digits.length - d.scale)
  let fraction := digits.drop (digits.length - d.scale)
  let magnitude := if fraction.isEmpty then whole else whole ++ '.' :: fraction
  if d.negative then '-' :: magnitude else magnitude

end Decimal

end DotPath
