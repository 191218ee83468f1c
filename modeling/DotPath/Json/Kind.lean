import DotPath.Json.Basic

/-!
The kinds of nodes, and nodes that may be missing.  A missing node is neither null nor a failure: it
is what a lookup finds where a document has nothing.
-/

set_option autoImplicit false
set_option relaxedAutoImplicit false

namespace DotPath

/-- The kind of a node; the last one stands for no node at all. -/
inductive Kind where
  | null
  | boolean
  | number
  | string
  | array
  | object
  | missing
  deriving DecidableEq

def Kind.name : Kind → String
  | .null => "null"
  | .boolean => "boolean"
  | .number => "number"
  | .string => "string"
  | .array => "array"
  | .object => "object"
  | .missing => "missing"

def Json.kind : Json → Kind
  | .null => .null
  | .bool _ => .boolean
  | .number _ => .number
  | .string _ => .string
  | .array _ => .array
  | .object _ => .object

inductive Located where
  | found (node : Json)
  | missing

namespace Located

def kind : Located → Kind
  | .found node => node.kind
  | .missing => .missing

def node? : Located → Option Json
  | .found node => some node
  | .missing => none

/-- The items of an array; nothing else has any. -/
def items : Located → List Json
  | .found (.array items) => items
  | _ => []

end Located

end DotPath
