import DotPath.Binary.Rounding
import DotPath.Text.Digits

/-!
The shortest decimal that reads back as a given finite datum.  A datum owns the interval of numbers
that round to it; the ends belong to it when its significand is even.  The search goes through
decimal grids from one digit up, and takes the first grid with a point in that interval; of two
points the nearer one counts, and of two equally near the even one.
-/

set_option autoImplicit false
set_option relaxedAutoImplicit false

namespace DotPath.Binary

structure Scientific where
  significand : Nat
  exponent : Int
  deriving DecidableEq

/-- The interval of the numbers that round to a positive datum, and the datum itself, as numerators
over one denominator. -/
structure Span where
  low : Nat
  middle : Nat
  high : Nat
  denominator : Nat
  closed : Bool

/-- The span of a positive datum.  It reaches half a unit up and down, but only a quarter of a unit
down where the unit below is half as great. -/
def Finite.span {f : Format} (x : Finite f) : Span :=
  let up := 2 ^ (x.exponent - 2).toNat
  let quarters := 4 * x.significand
  let below :=
    if x.significand = 2 ^ (f.precision - 1) ∧ f.minExponent < x.exponent then 1 else 2
  { low := (quarters - below) * up
    middle := quarters * up
    high := (quarters + 2) * up
    denominator := 2 ^ (2 - x.exponent).toNat
    closed := x.significand % 2 = 0 }

namespace Span

def leadingExponent (s : Span) : Int :=
  if s.denominator ≤ s.middle then (Text.digits (s.middle / s.denominator)).length - 1
  else -((Text.digits ((s.denominator - 1) / s.middle)).length : Int)

/-- Compares a point of the grid of ten to the exponent with a numerator of the span: the two
products to compare. -/
def against (s : Span) (exponent : Int) (point numerator : Nat) : Nat × Nat :=
  (point * 10 ^ exponent.toNat * s.denominator, numerator * 10 ^ (-exponent).toNat)

def owns (s : Span) (exponent : Int) (point : Nat) : Bool :=
  let fromLow := s.against exponent point s.low
  let fromHigh := s.against exponent point s.high
  if s.closed then fromLow.2 ≤ fromLow.1 && fromHigh.1 ≤ fromHigh.2
  else fromLow.2 < fromLow.1 && fromHigh.1 < fromHigh.2

/-- The point of a grid that is nearest to the middle, if the span owns a neighbour of the middle on
that grid. -/
def gridPoint? (s : Span) (exponent : Int) : Option Nat :=
  let unit := 10 ^ exponent.toNat * s.denominator
  let scaled := s.middle * 10 ^ (-exponent).toNat
  let below := scaled / unit
  let nearest := roundHalfEven scaled unit
  let other := if nearest = below then below + 1 else below
  if s.owns exponent nearest then some nearest
  else if s.owns exponent other then some other
  else none

end Span

/-- A decimal without trailing zeros in its significand; `fuel` bounds their number. -/
def Scientific.strip : Nat → Scientific → Scientific
  | 0, d => d
  | fuel + 1, d =>
      if d.significand ≠ 0 ∧ d.significand % 10 = 0 then
        strip fuel ⟨d.significand / 10, d.exponent + 1⟩
      else d

/-- The most decimal digits that a search for the shortest decimal needs in any format here. -/
def mostDigits : Nat := 17

def Finite.exactDecimal {f : Format} (x : Finite f) : Scientific :=
  ⟨x.significand * 2 ^ x.exponent.toNat * 5 ^ (-x.exponent).toNat, -(-x.exponent).toNat⟩

def Finite.shortest {f : Format} (x : Finite f) : Scientific :=
  if x.significand = 0 then ⟨0, 0⟩
  else
    let span := x.span
    let leading := span.leadingExponent
    let onGrid (count : Nat) : Option Scientific :=
      let exponent := leading - count
      (span.gridPoint? exponent).map fun point => ⟨point, exponent⟩
    match (List.range mostDigits).findSome? onGrid with
    | some d => d.strip mostDigits
    | none => x.exactDecimal

end DotPath.Binary
