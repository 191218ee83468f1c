import DotPath.Numeral
import DotPath.Reading.Refusal
import DotPath.Text.Blank

/-!
Reading nodes as text, as truth values, and as the length of an array.
-/

set_option autoImplicit false
set_option relaxedAutoImplicit false

namespace DotPath

namespace Json.Number

def isZero : Number → Bool
  | .integer k _ => k == 0
  | .float x => x.isZero

end Json.Number

/-- The truth value that a text names, in any case and with any blank space around it. -/
def readTruth? (text : List Char) : Option Bool :=
  let name := String.ofList ((Text.trim text).map Char.toLower)
  if name = "true" then some true
  else if name = "false" then some false
  else none

namespace Located

/-- The text of a scalar: a string itself, the plain form of a number, the name of a truth value. -/
def toText : Located → Option String
  | .found (.string text) => some text
  | .found (.number number) => some (String.ofList number.plain)
  | .found (.bool value) => some (String.ofList (Json.boolText value))
  | _ => none

/-- The truth value of a node.  A number is true unless it is zero. -/
def toBool : Located → Logged Bool
  | .found (.string text) =>
      match readTruth? text.toList with
      | some value => pure value
      | none => .unreadable .bool text .notTruth
  | .found (.number number) => pure !number.isZero
  | .found (.bool value) => pure value
  | other => .notConvertible .bool other.kind

def toArrayLength : Located → Logged Nat
  | .found (.array items) => pure items.length
  | other => .notConvertible .arrayLength other.kind

end Located

end DotPath
