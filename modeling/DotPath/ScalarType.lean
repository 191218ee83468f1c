import DotPath.Power

/-!
The scalar types that a node can be read as, with the names that messages give them.
-/

set_option autoImplicit false
set_option relaxedAutoImplicit false

namespace DotPath

inductive IntegerType where
  | u8
  | i8
  | i16
  | i32
  | i64
  | u16
  | u32
  | u64
  deriving DecidableEq

namespace IntegerType

def name : IntegerType → String
  | .u8 => "u8"
  | .i8 => "i8"
  | .i16 => "i16"
  | .i32 => "i32"
  | .i64 => "i64"
  | .u16 => "u16"
  | .u32 => "u32"
  | .u64 => "u64"

def width : IntegerType → Nat
  | .u8 | .i8 => 8
  | .u16 | .i16 => 16
  | .u32 | .i32 => 32
  | .u64 | .i64 => 64

def isSigned : IntegerType → Bool
  | .i8 | .i16 | .i32 | .i64 => true
  | .u8 | .u16 | .u32 | .u64 => false

def least (t : IntegerType) : Int :=
  if t.isSigned then -2 ^ (t.width - 1) else 0

def greatest (t : IntegerType) : Int :=
  if t.isSigned then 2 ^ (t.width - 1) - 1 else 2 ^ t.width - 1

def Holds (t : IntegerType) (k : Int) : Prop :=
  t.least ≤ k ∧ k ≤ t.greatest

instance (t : IntegerType) (k : Int) : Decidable (t.Holds k) :=
  inferInstanceAs (Decidable (_ ∧ _))

end IntegerType

inductive ScalarType where
  | bool
  | integer (type : IntegerType)
  | float32
  | float64
  | decimal
  | dateTime
  | zonedDateTime
  | arrayLength
  deriving DecidableEq

def ScalarType.name : ScalarType → String
  | .bool => "bool"
  | .integer type => type.name
  | .float32 => "f32"
  | .float64 => "f64"
  | .decimal => "Decimal"
  | .dateTime => "NaiveDateTime"
  | .zonedDateTime => "DateTime<FixedOffset>"
  | .arrayLength => "array length"

end DotPath
