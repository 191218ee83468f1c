import DotPath.Decimal.Reader
import DotPath.Json.Kind
import DotPath.Shape
import DotPath.ScalarType

/-!
Everything that can go wrong, by cause: in a path, on the way through a document, and in reading the
node found.  All wordings are here.
-/

set_option autoImplicit false
set_option relaxedAutoImplicit false

namespace DotPath

inductive Unreadable where
  | notTruth
  | emptyInteger
  | badDigit
  | emptyFloat
  | badFloat
  | badDecimal (fault : Decimal.Fault)
  | unknownDateForm
  deriving DecidableEq

def Unreadable.message : Unreadable → String
  | .notTruth => "expected \"true\" or \"false\""
  | .emptyInteger => "cannot parse integer from empty string"
  | .badDigit => "invalid digit found in string"
  | .emptyFloat => "cannot parse float from empty string"
  | .badFloat => "invalid float literal"
  | .badDecimal fault => fault.message
  | .unknownDateForm => "unrecognized date/time format"

inductive Failure where
  /-- The path is empty. -/
  | emptyPath
  /-- A piece of the path has a character that paths reserve. -/
  | reservedCharacter (piece : String)
  /-- A piece of the path has a bracket without a position in it. -/
  | badIndex (piece : String)
  /-- An array is too short for a position of the path. -/
  | indexNotFound (path : String) (index length : Nat)
  /-- A node of this kind is never a value of the type. -/
  | notConvertible (target : ScalarType) (kind : Kind)
  /-- A text is not a value of the type. -/
  | unreadable (target : ScalarType) (text : String) (reason : Unreadable)
  /-- A value is outside the range of the type. -/
  | outOfRange (target : ScalarType) (value : String)
  /-- A node does not have the shape asked for. -/
  | mismatched (mismatch : Mismatch)
  deriving DecidableEq

def Failure.message : Failure → String
  | .emptyPath => "path is empty"
  | .reservedCharacter piece => "invalid name param: " ++ piece
  | .badIndex piece => "invalid array index in param: " ++ piece
  | .indexNotFound path index length =>
      "not found array index " ++ Text.decimal index ++ " (length " ++ Text.decimal length
        ++ ") for json key: " ++ path
  | .notConvertible target kind =>
      "cannot convert a " ++ kind.name ++ " node to the " ++ target.name ++ " type"
  | .unreadable target text reason =>
      "cannot parse " ++ Text.quote text ++ " as " ++ target.name ++ ": " ++ reason.message
  | .outOfRange target value => "value " ++ value ++ " is out of range for " ++ target.name
  | .mismatched mismatch => "structural decode failed: " ++ mismatch.message

end DotPath
