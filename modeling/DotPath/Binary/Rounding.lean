import DotPath.Binary.Format

/-!
Correct rounding of quotients to a binary format: the nearest datum, a tie going to the even
significand, and an infinity where the nearest datum would need a greater unit than there is.
-/

set_option autoImplicit false
set_option relaxedAutoImplicit false

namespace DotPath.Binary

/-- The natural number nearest to a quotient; a tie goes to the even one. -/
def roundHalfEven (numerator denominator : Nat) : Nat :=
  let quotient := numerator / denominator
  let twice := 2 * (numerator % denominator)
  if twice < denominator then quotient
  else if denominator < twice then quotient + 1
  else if quotient % 2 = 0 then quotient
  else quotient + 1

/-- A quotient measured in units of two to the exponent, again as a quotient. -/
def inUnits (numerator denominator : Nat) (exponent : Int) : Nat × Nat :=
  (numerator * 2 ^ (-exponent).toNat, denominator * 2 ^ exponent.toNat)

namespace Format

/-- The exponent of the unit in which the whole part of a positive quotient has as many bits as the
significand, or the least exponent if that is greater. -/
def unitExponent (f : Format) (numerator denominator : Nat) : Int :=
  let low : Int := numerator.log2 - denominator.log2 - f.precision
  let scaled := inUnits numerator denominator low
  let exact := if scaled.1 / scaled.2 < 2 ^ f.precision then low else low + 1
  max exact f.minExponent

/-- The datum with a significand of at most `2 ^ precision`; that bound itself is written with the
next greater unit. -/
def assemble (f : Format) (negative : Bool) (significand : Nat) (exponent : Int) : Datum f :=
  let carried :=
    if significand = 2 ^ f.precision then (2 ^ (f.precision - 1), exponent + 1)
    else (significand, exponent)
  if canonical : f.Canonical carried.1 carried.2 then
    .finite ⟨negative, carried.1, carried.2, canonical⟩
  else .infinite negative

/-- The datum nearest to a quotient of natural numbers, with the sign given. -/
def nearest (f : Format) (negative : Bool) (numerator denominator : Nat) : Datum f :=
  if numerator = 0 then .finite (.zero f negative)
  else
    let exponent := f.unitExponent numerator denominator
    let scaled := inUnits numerator denominator exponent
    f.assemble negative (roundHalfEven scaled.1 scaled.2) exponent

def ofInt (f : Format) (k : Int) : Datum f :=
  f.nearest (k < 0) k.natAbs 1

end Format

def Finite.convert {f : Format} (g : Format) (x : Finite f) : Datum g :=
  g.nearest x.negative x.ratio.1 x.ratio.2

def Datum.convert {f : Format} (g : Format) : Datum f → Datum g
  | .nan => .nan
  | .infinite negative => .infinite negative
  | .finite x => x.convert g

end DotPath.Binary
