import DotPath.Json.Kind
import DotPath.Path.Basic

/-!
Addresses: single steps into a document, by member or by position.  The steps of a path are what it
walks; the segments they are grouped in, and the names that only hold positions, leave no trace in
them.
-/

set_option autoImplicit false
set_option relaxedAutoImplicit false

namespace DotPath

inductive Step where
  | key (name : String)
  | index (place : Nat)
  deriving DecidableEq

def Json.child? : Json → Step → Option Json
  | .object members, .key name => Json.member? name members
  | .array items, .index place => items[place]?
  | _, _ => none

def Json.at? : Json → List Step → Option Json
  | node, [] => some node
  | node, step :: rest => (node.child? step).bind fun part => part.at? rest

/-- The steps of a segment.  An empty name in front of positions is no step. -/
def Segment.steps : Segment → List Step
  | .field name => [.key name]
  | .indexed name indices =>
      (if name.isEmpty then [] else [.key name]) ++ indices.map .index

def Path.steps (path : Path) : List Step :=
  path.segments.flatMap Segment.steps

theorem Json.at?_append (node : Json) (first second : List Step) :
    node.at? (first ++ second) = (node.at? first).bind fun part => part.at? second := by
  induction first generalizing node with
  | nil => simp [Json.at?]
  | cons step rest ih =>
    cases reached : node.child? step with
    | none => simp [Json.at?, reached]
    | some part => simp [Json.at?, reached, ih]

end DotPath
