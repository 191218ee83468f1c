import DotPath.Reading.Fraction
import DotPath.Reading.Simple
import DotPath.Reading.Structure
import DotPath.Reading.Time
import DotPath.Walk

/-!
Everything a node can be read as, by one name, with the answers that go with it.
-/

set_option autoImplicit false
set_option relaxedAutoImplicit false

namespace DotPath

inductive Target where
  | node
  | text
  | scalar (type : ScalarType)
  | object (shape : Shape)
  | array (shape : Shape)

inductive Answer where
  | node (located : Located)
  | text (content : Option String)
  | bool (value : Bool)
  | integer (value : Int)
  | float32 (value : Binary.Datum Binary.binary32)
  | float64 (value : Binary.Datum Binary.binary64)
  | decimal (value : Decimal)
  | dateTime (value : Calendar.DateTime)
  | zonedDateTime (value : Calendar.ZonedDateTime)
  | arrayLength (value : Nat)
  | object (node : Option Json)
  | array (items : Option (List Json))

def ScalarType.read (here : Located) : ScalarType → Logged Answer
  | .bool => Answer.bool <$> here.toBool
  | .integer type => Answer.integer <$> here.toInteger type
  | .float32 => Answer.float32 <$> here.toBinary32
  | .float64 => Answer.float64 <$> here.toBinary64
  | .decimal => Answer.decimal <$> here.toDecimal
  | .dateTime => Answer.dateTime <$> here.toDateTime
  | .zonedDateTime => Answer.zonedDateTime <$> here.toZonedDateTime
  | .arrayLength => Answer.arrayLength <$> here.toArrayLength

def Target.read (here : Located) : Target → Logged Answer
  | .node => pure (.node here)
  | .text => pure (.text here.toText)
  | .scalar type => type.read here
  | .object shape => Answer.object <$> here.toObject shape.decode
  | .array shape => Answer.array <$> here.toArray shape.decode

def readAt (root : Json) (source : String) (target : Target) : Logged Answer := do
  let here ← locate root source
  target.read here

namespace Json

/-- An integer as a number node; null if no document keeps it exactly. -/
def ofInt (k : Int) : Json :=
  if exact : IsExact k then .number (.integer k exact) else .null

/-- A float as a number node; null if it is not finite. -/
def ofDatum : Binary.Datum Binary.binary64 → Json
  | .finite x => .number (.float x)
  | _ => .null

def ofText (text : List Char) : Json :=
  .string (String.ofList text)

end Json

def Answer.toJson : Answer → Json
  | .node located => located.node?.getD .null
  | .text content => (content.map Json.string).getD .null
  | .bool value => .bool value
  | .integer value => .ofInt value
  | .float32 value => .ofDatum (value.convert Binary.binary64)
  | .float64 value => .ofDatum value
  | .decimal value => .ofText value.text
  | .dateTime value => .ofText value.text
  | .zonedDateTime value => .ofText value.text
  | .arrayLength value => .ofInt value
  | .object decoded => decoded.getD .null
  | .array items => (items.map Json.array).getD .null

end DotPath
