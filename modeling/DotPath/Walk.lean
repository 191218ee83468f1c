import DotPath.Log
import DotPath.Path.Compile

/-!
Walking a document along a path.  A field that is not there leaves the walk at a missing node, from
which it goes on; a position that is not there ends the walk with a failure.
-/

set_option autoImplicit false
set_option relaxedAutoImplicit false

namespace DotPath

namespace Located

/-- Goes to a member.  Nodes that are no objects have no members, and a missing node stays missing
without a further event. -/
def field (here : Located) (name : String) : Logged Located :=
  match here with
  | .found (.object members) =>
      match Json.member? name members with
      | some node => pure (.found node)
      | none => do
          Logged.note (.fieldAbsent name)
          pure .missing
  | .found other => do
      Logged.note (.fieldOnScalar name other.kind)
      pure .missing
  | .missing => pure .missing

def element (here : Located) (source : String) (index : Nat) : Logged Located :=
  match here.items[index]? with
  | some node => pure (.found node)
  | none => do
      Logged.note (.indexNotFound source index here.items.length)
      Logged.fail (.indexNotFound source index here.items.length)

def elements (source : String) : Located → List Nat → Logged Located
  | here, [] => pure here
  | here, index :: rest => do
      let next ← here.element source index
      elements source next rest

end Located

def Segment.walk (source : String) (here : Located) : Segment → Logged Located
  | .field name => here.field name
  | .indexed name indices => do
      let base ← if name.isEmpty then pure here else here.field name
      base.elements source indices

def walkSegments (source : String) : List Segment → Located → Logged Located
  | [], here => pure here
  | segment :: rest, here => do
      Logged.note (.step segment here.kind)
      let next ← segment.walk source here
      walkSegments source rest next

namespace Path

def compileLogged (source : String) : Logged Path := do
  let path ← Logged.ofExcept (compile source)
  Logged.note (.compiled source path.segments.length)
  pure path

def evaluate (path : Path) (root : Json) : Logged Located :=
  walkSegments path.source path.segments (.found root)

end Path

def locate (root : Json) (source : String) : Logged Located := do
  let path ← Path.compileLogged source
  path.evaluate root

end DotPath
