import DotPath.Binary.Rounding
import DotPath.Text.Digits

/-!
Decimals read into a binary format, correctly rounded.
-/

set_option autoImplicit false
set_option relaxedAutoImplicit false

namespace DotPath.Binary

/-- Decimals from `10 ^ decimalReach` on are infinite, and decimals up to `10 ^ (-decimalReach)` are
zero, in every format of at most 64 bits; their powers of ten are not written out. -/
def decimalReach : Int := 400

def Format.ofDecimal (f : Format) (negative : Bool) (significand : Nat) (exponent : Int) :
    Datum f :=
  let reach := (Text.digits significand).length + exponent
  if significand = 0 ∨ reach < -decimalReach then .finite (.zero f negative)
  else if decimalReach < reach then .infinite negative
  else f.nearest negative (significand * 10 ^ exponent.toNat) (10 ^ (-exponent).toNat)

end DotPath.Binary
