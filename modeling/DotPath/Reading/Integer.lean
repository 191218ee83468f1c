import DotPath.Reading.Refusal
import DotPath.Text.Blank

/-!
Reading nodes as integers.  Text and numbers are first taken to a wide integer of 128 bits and then
held against the range of the type asked for.
-/

set_option autoImplicit false
set_option relaxedAutoImplicit false

namespace DotPath

/-- The greatest magnitude of a wide integer of each sign. -/
def wideBound (negative : Bool) : Nat :=
  if negative then 2 ^ (127 : Nat) else 2 ^ (127 : Nat) - 1

inductive IntegerFault where
  | empty
  | badDigit
  | tooGreat
  deriving DecidableEq

/-- The magnitude of a run of digits behind digits that are worth `read`.  Each character is held
against the digits and then against the bound, so that the first offence counts. -/
def readMagnitude (bound : Nat) : Nat → List Char → Except IntegerFault Nat
  | read, [] => .ok read
  | read, c :: rest =>
      if c.isDigit then
        let next := 10 * read + Text.digitValue c
        if next ≤ bound then readMagnitude bound next rest else .error .tooGreat
      else .error .badDigit

def readUnsigned (negative : Bool) (digits : List Char) : Except IntegerFault Int :=
  if digits.isEmpty then .error .badDigit
  else
    (readMagnitude (wideBound negative) 0 digits).map fun magnitude =>
      if negative then -(magnitude : Int) else magnitude

def readWide : List Char → Except IntegerFault Int
  | [] => .error .empty
  | '-' :: rest => readUnsigned true rest
  | '+' :: rest => readUnsigned false rest
  | text => readUnsigned false text

namespace Located

def wideOfText (target : ScalarType) (text : String) : Logged Int :=
  let trimmed := Text.trim text.toList
  match readWide trimmed with
  | .ok k => pure k
  | .error .tooGreat => .outOfRange target trimmed
  | .error .empty => .unreadable target text .emptyInteger
  | .error .badDigit => .unreadable target text .badDigit

/-- The wide integer of a number node.  A float has one if it is whole. -/
def wideOfNumber (target : ScalarType) (number : Json.Number) : Logged Int :=
  match number with
  | .integer k _ => pure k
  | .float x =>
      match x.toInt? with
      | none => .notConvertible target .number
      | some k =>
          if -2 ^ (127 : Nat) ≤ k ∧ k < 2 ^ (127 : Nat) then pure k
          else .outOfRange target number.text

def toWide (target : ScalarType) : Located → Logged Int
  | .found (.string text) => wideOfText target text
  | .found (.number number) => wideOfNumber target number
  | other => .notConvertible target other.kind

def toInteger (type : IntegerType) (here : Located) : Logged Int := do
  let k ← here.toWide (.integer type)
  if type.Holds k then pure k else .outOfRange (.integer type) (Text.signedDigits k)

end Located

end DotPath
