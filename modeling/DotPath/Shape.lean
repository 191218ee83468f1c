import DotPath.Json.Printer
import DotPath.ScalarType
import DotPath.Text.Quoted

/-!
Shapes of nodes.  A shape says what a node has to look like, and decoding a node by a shape gives
the node as that shape sees it: any node is built again from its parts, unknown fields of a record
are left out, its fields stand in the order of the record, and numbers of a float shape are floats.
-/

set_option autoImplicit false
set_option relaxedAutoImplicit false

namespace DotPath

namespace Json

mutual

/-- The node that is built again from what a node shows: a scalar is as it is shown, items are taken
in order, and members are put one by one into an empty object. -/
def rebuilt : Json → Json
  | .null => .null
  | .bool value => .bool value
  | .number value => .number value
  | .string text => .string text
  | .array items => .array (rebuiltItems items)
  | .object members => .ofMembers (rebuiltMembers members)

def rebuiltItems : List Json → List Json
  | [] => []
  | item :: rest => rebuilt item :: rebuiltItems rest

def rebuiltMembers : List (String × Json) → List (String × Json)
  | [] => []
  | (key, value) :: rest => (key, rebuilt value) :: rebuiltMembers rest

end

end Json

/-- What a record holds where a field is not given. -/
inductive Absence where
  | required
  | nullable
  | filled (value : Json)

inductive Shape where
  | any
  | text
  | truth
  | integer (type : IntegerType)
  | float
  | optional (inner : Shape)
  | list (items : Shape)
  | dictionary (values : Shape)
  | record (name : String) (fields : List (String × Shape × Absence))

/-- What a node is, as far as a mismatch tells. -/
inductive Appearance where
  | null
  | boolean (value : Bool)
  | integer (value : Int)
  | float (text : String)
  | string (text : String)
  | sequence
  | map
  deriving DecidableEq

namespace Appearance

def ofJson : Json → Appearance
  | .null => .null
  | .bool value => .boolean value
  | .number (.integer value _) => .integer value
  | .number (.float value) => .float (String.ofList (Json.floatText value))
  | .string text => .string text
  | .array _ => .sequence
  | .object _ => .map

def words : Appearance → String
  | .null => "null"
  | .boolean value => "boolean `" ++ String.ofList (Json.boolText value) ++ "`"
  | .integer value => "integer `" ++ String.ofList (Text.signedDigits value) ++ "`"
  | .float text => "floating point `" ++ text ++ "`"
  | .string text => "string " ++ Text.quote text
  | .sequence => "sequence"
  | .map => "map"

end Appearance

inductive Mismatch where
  | wrongType (found : Appearance) (expected : String)
  | wrongValue (found : Appearance) (expected : String)
  | missingField (name : String)
  | wrongLength (length : Nat) (expected : String)
  deriving DecidableEq

def Mismatch.message : Mismatch → String
  | .wrongType found expected => "invalid type: " ++ found.words ++ ", expected " ++ expected
  | .wrongValue found expected => "invalid value: " ++ found.words ++ ", expected " ++ expected
  | .missingField name => "missing field `" ++ name ++ "`"
  | .wrongLength length expected =>
      "invalid length " ++ Text.decimal length ++ ", expected " ++ expected

namespace Shape

def expectation : Shape → String
  | .any => "any value"
  | .text => "a string"
  | .truth => "a boolean"
  | .integer type => type.name
  | .float => "f64"
  | .optional inner => inner.expectation
  | .list _ => "a sequence"
  | .dictionary _ => "a map"
  | .record name _ => "struct " ++ name

def lengthExpectation (name : String) (count : Nat) : String :=
  "struct " ++ name ++ " with " ++ Text.decimal count ++
    if count = 1 then " element" else " elements"

def mismatch (shape : Shape) (node : Json) : Mismatch :=
  .wrongType (.ofJson node) shape.expectation

def floatNode? : Json.Number → Option Json
  | .integer k _ =>
      match Binary.binary64.ofInt k with
      | .finite x => some (.number (.float x))
      | _ => none
  | .float x => some (.number (.float x))

/-- The fields of a record in order, each from the decoded members or else from its absence. -/
def assemble (decoded : List (String × Json)) :
    List (String × Shape × Absence) → Except Mismatch (List (String × Json))
  | [] => .ok []
  | (key, shape, absence) :: fields => do
      let value ←
        match decoded.lookup key, absence, shape with
        | some value, _, _ => pure value
        | none, .filled value, _ => pure value
        | none, .nullable, _ => pure .null
        | none, .required, _ => throw (Mismatch.missingField key)
      let rest ← assemble decoded fields
      pure ((key, value) :: rest)

mutual

/-- Decodes a node by a shape.  Members are visited in key order and items from the first on, and
the first mismatch counts. -/
def decode : Shape → Json → Except Mismatch Json
  | .any, node => .ok node.rebuilt
  | .text, .string content => .ok (.string content)
  | .truth, .bool value => .ok (.bool value)
  | .integer type, .number (.integer k exact) =>
      if type.Holds k then .ok (.number (.integer k exact))
      else .error (.wrongValue (.integer k) type.name)
  | .float, .number number =>
      match floatNode? number with
      | some node => .ok node
      | none => .error (.wrongType (.ofJson (.number number)) "f64")
  | .optional _, .null => .ok .null
  | .optional inner, node => decode inner node
  | .list items, .array nodes => do
      let decoded ← nodes.mapM fun node => decode items node
      pure (.array decoded)
  | .dictionary values, .object members => do
      let decoded ← members.mapM fun (key, node) => do
        let value ← decode values node
        pure (key, value)
      pure (.ofMembers decoded)
  | .record _ fields, .object members => do
      let decoded ← members.mapM fun (key, node) => decodeField fields key node
      let assembled ← assemble (decoded.filterMap id) fields
      pure (.object assembled)
  | .record name fields, .array nodes => do
      let assembled ← decodeItems name fields.length fields nodes 0
      if fields.length < nodes.length then
        throw (.wrongLength nodes.length "fewer elements in array")
      else pure (.object assembled)
  | shape, node => .error (shape.mismatch node)

/-- Decodes a member by the field of its key; a member without a field is left out. -/
def decodeField : List (String × Shape × Absence) → String → Json →
    Except Mismatch (Option (String × Json))
  | [], _, _ => .ok none
  | (fieldKey, shape, _) :: fields, key, node =>
      if fieldKey = key then (decode shape node).map fun value => some (key, value)
      else decodeField fields key node

/-- Decodes the items of an array as the fields of a record in order, `place` fields being done. -/
def decodeItems (name : String) (count : Nat) :
    List (String × Shape × Absence) → List Json → Nat →
      Except Mismatch (List (String × Json))
  | [], _, _ => .ok []
  | (key, shape, _) :: fields, node :: nodes, place => do
      let value ← decode shape node
      let rest ← decodeItems name count fields nodes (place + 1)
      pure ((key, value) :: rest)
  | (key, _, .filled value) :: fields, [], place => do
      let rest ← decodeItems name count fields [] (place + 1)
      pure ((key, value) :: rest)
  | _ :: _, [], place => .error (.wrongLength place (lengthExpectation name count))

end

end Shape

end DotPath
