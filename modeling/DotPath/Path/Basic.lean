import DotPath.Text.Digits

/-!
Paths into documents.  A path is a list of segments; a segment names a field, and may go on with
array positions.  The text of a path writes its segments between points and every position in
brackets.
-/

set_option autoImplicit false
set_option relaxedAutoImplicit false

namespace DotPath

/-- A part of a path between points.  An indexed segment with an empty name starts from the node
that the path has reached. -/
inductive Segment where
  | field (name : String)
  | indexed (name : String) (indices : List Nat)
  deriving DecidableEq

namespace Segment

def name : Segment → String
  | .field name => name
  | .indexed name _ => name

def indices : Segment → List Nat
  | .field _ => []
  | .indexed _ indices => indices

def indexText (index : Nat) : List Char :=
  '[' :: Text.digits index ++ [']']

def text : Segment → List Char
  | .field name => name.toList
  | .indexed name indices => name.toList ++ indices.flatMap indexText

end Segment

/-- A compiled path: the text that it was compiled from, and its segments.  Two paths are equal only
if their source texts are. -/
structure Path where
  source : String
  segments : List Segment
  deriving DecidableEq

namespace Path

def segmentsText (segments : List Segment) : List Char :=
  ['.'].intercalate (segments.map Segment.text)

def display (path : Path) : String :=
  String.ofList (segmentsText path.segments)

end Path

end DotPath
