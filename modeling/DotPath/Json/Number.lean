import DotPath.Binary.Shortest

/-!
JSON numbers.  An integer of at most 64 bits is kept exactly; every other number is the binary64
datum nearest to it.  The text of a number is the shortest that reads back as the same number of the
same kind, so a float always shows a point or an exponent.
-/

set_option autoImplicit false
set_option relaxedAutoImplicit false

namespace DotPath.Json

open DotPath.Binary (Finite Scientific binary64)

/-- The integers that a document keeps exactly: those of 64 bits, signed or unsigned. -/
def IsExact (k : Int) : Prop :=
  -2 ^ (63 : Nat) ≤ k ∧ k < 2 ^ (64 : Nat)

instance (k : Int) : Decidable (IsExact k) :=
  inferInstanceAs (Decidable (_ ∧ _))

inductive Number where
  | integer (value : Int) (exact : IsExact value)
  | float (value : Finite binary64)
  deriving DecidableEq

/-- The digits of a positive decimal with the point put after `point` of them. -/
def positional (digits : List Char) (point : Int) : List Char :=
  if digits.length ≤ point then
    digits ++ List.replicate (point - digits.length).toNat '0' ++ ['.', '0']
  else if 0 < point then
    digits.take point.toNat ++ '.' :: digits.drop point.toNat
  else ['0', '.'] ++ List.replicate (-point).toNat '0' ++ digits

def exponential (digits : List Char) (exponent : Int) : List Char :=
  let mantissa :=
    match digits with
    | first :: second :: rest => first :: '.' :: second :: rest
    | short => short
  let sign := if exponent < 0 then '-' else '+'
  mantissa ++ 'e' :: sign :: Text.digits exponent.natAbs

/-- The magnitudes from `10 ^ leastPositional` up to below `10 ^ firstExponential` are written
without an exponent. -/
def leastPositional : Int := -5

@[inherit_doc leastPositional]
def firstExponential : Int := 16

def decimalText (d : Scientific) : List Char :=
  if d.significand = 0 then ['0', '.', '0']
  else
    let digits := Text.digits d.significand
    let point := digits.length + d.exponent
    if leastPositional < point ∧ point ≤ firstExponential then positional digits point
    else exponential digits (point - 1)

def floatText (x : Finite binary64) : List Char :=
  if x.negative then '-' :: decimalText x.shortest else decimalText x.shortest

def Number.text : Number → List Char
  | .integer k _ => Text.signedDigits k
  | .float x => floatText x

end DotPath.Json
