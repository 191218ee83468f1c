import DotPath.Binary.Literal
import DotPath.Decimal.Reader
import DotPath.Reading.Refusal
import DotPath.Text.Blank

/-!
Reading nodes as floats of both formats and as decimals.
-/

set_option autoImplicit false
set_option relaxedAutoImplicit false

namespace DotPath

open Binary (Datum Format binary32 binary64)

def Json.Number.toBinary64 : Json.Number → Datum binary64
  | .integer k _ => binary64.ofInt k
  | .float x => .finite x

namespace Located

def floatOfText (f : Format) (target : ScalarType) (text : String) : Logged (Datum f) :=
  match f.readLiteral (Text.trim text.toList) with
  | .ok datum => pure datum
  | .error .empty => .unreadable target text .emptyFloat
  | .error .malformed => .unreadable target text .badFloat

def toBinary64 : Located → Logged (Datum binary64)
  | .found (.string text) => floatOfText binary64 .float64 text
  | .found (.number number) => pure number.toBinary64
  | other => .notConvertible .float64 other.kind

/-- The binary32 float of a node.  A number is rounded to binary64 first. -/
def toBinary32 : Located → Logged (Datum binary32)
  | .found (.string text) => floatOfText binary32 .float32 text
  | .found (.number number) => pure (number.toBinary64.convert binary32)
  | other => .notConvertible .float32 other.kind

def toDecimal : Located → Logged Decimal
  | .found (.string text) =>
      match Decimal.ofText (Text.trim text.toList) with
      | .ok d => pure d
      | .error fault => .unreadable .decimal text (.badDecimal fault)
  | .found (.number number) =>
      match Decimal.ofPlain number.plain with
      | .ok d => pure d
      | .error _ => .outOfRange .decimal number.text
  | other => .notConvertible .decimal other.kind

end Located

end DotPath
