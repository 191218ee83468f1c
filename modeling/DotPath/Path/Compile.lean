import DotPath.Failure
import DotPath.Path.Basic
import DotPath.Text.Blank

/-!
Compiling paths.  The text is cut at its points; every piece is a name followed by positions in
brackets, and the first piece that is not decides the failure.
-/

set_option autoImplicit false
set_option relaxedAutoImplicit false

namespace DotPath

def Path.reserved : List Char :=
  [',', '<', '>', '?', '^', ':', '(', ')', '=', '!', '%', '\\', '|', '/', '*', '+', '-']

def Path.indexBound : Nat := 2 ^ (64 : Nat)

namespace Segment

/-- The position in a piece of text from behind an opening bracket: digits, with blank space around
them, and the closing bracket at the very end. -/
def readIndex? (group : List Char) : Option Nat :=
  match group.reverse with
  | ']' :: reversed =>
      let digits := Text.trim reversed.reverse
      if Text.isNumeral digits ∧ Text.value digits < Path.indexBound then some (Text.value digits)
      else none
  | _ => none

def compile (piece : List Char) : Except Failure Segment :=
  if piece.any (Path.reserved.contains ·) then .error (.reservedCharacter (String.ofList piece))
  else
    match piece.splitOn '[' with
    | name :: group :: groups =>
        match (group :: groups).mapM readIndex? with
        | some indices => .ok (.indexed (String.ofList name) indices)
        | none => .error (.badIndex (String.ofList piece))
    | _ => .ok (.field (String.ofList piece))

end Segment

namespace Path

def compile (source : String) : Except Failure Path :=
  if source.isEmpty then .error .emptyPath
  else do
    let segments ← (source.toList.splitOn '.').mapM Segment.compile
    pure ⟨source, segments⟩

end Path

end DotPath
