import DotPath.Log
import DotPath.Shape

/-!
Reading nodes as structures.  An object or an array is decoded, the array item by item; every other
node is none, which is no failure.  What decodes a node, and into what, is left open.
-/

set_option autoImplicit false
set_option relaxedAutoImplicit false

namespace DotPath.Located

variable {α : Type}

def decoded : Except Mismatch α → Logged α
  | .ok value => pure value
  | .error mismatch => .fail (.mismatched mismatch)

def toObject (decode : Json → Except Mismatch α) : Located → Logged (Option α)
  | .found (.object members) => do
      let value ← decoded (decode (.object members))
      pure (some value)
  | _ => pure none

def toArray (decode : Json → Except Mismatch α) : Located → Logged (Option (List α))
  | .found (.array items) => do
      let values ← decoded (items.mapM decode)
      pure (some values)
  | _ => pure none

end DotPath.Located
