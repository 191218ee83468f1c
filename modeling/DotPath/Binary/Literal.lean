import DotPath.Binary.Decimal

/-!
Float literals: a sign, and then either a name of infinity or of not-a-number in any case, or digits
with a point somewhere and an exponent behind them.
-/

set_option autoImplicit false
set_option relaxedAutoImplicit false

namespace DotPath.Binary

inductive LiteralFault where
  | empty
  | malformed
  deriving DecidableEq

namespace Literal

/-- Exponents are not read on past this size, where nothing depends on them any more. -/
def exponentCap : Nat := 0x10000

def cappedValue (digits : List Char) : Nat :=
  digits.foldl
    (fun n c => if n < exponentCap then 10 * n + Text.digitValue c else n) 0

/-- The exponent that a text consists of: nothing at all, or a mark with a signed number. -/
def exponent? : List Char → Option Int
  | [] => some 0
  | mark :: rest =>
      let (negative, digits) :=
        match rest with
        | '-' :: more => (true, more)
        | '+' :: more => (false, more)
        | more => (false, more)
      if (mark = 'e' ∨ mark = 'E') ∧ Text.isNumeral digits then
        let magnitude : Int := cappedValue digits
        some (if negative then -magnitude else magnitude)
      else none

def fraction : List Char → List Char × List Char
  | '.' :: rest => Text.spanDigits rest
  | rest => ([], rest)

def digits? (f : Format) (negative : Bool) (text : List Char) : Option (Datum f) :=
  let (whole, behindWhole) := Text.spanDigits text
  let (part, behindPart) := fraction behindWhole
  if whole.isEmpty && part.isEmpty then none
  else
    (exponent? behindPart).map fun exponent =>
      f.ofDecimal negative (Text.value (whole ++ part)) (exponent - part.length)

def name? (f : Format) (negative : Bool) (text : List Char) : Option (Datum f) :=
  let lower := String.ofList (text.map Char.toLower)
  if lower = "inf" ∨ lower = "infinity" then some (.infinite negative)
  else if lower = "nan" then some .nan
  else none

def sign : List Char → Bool × List Char
  | '-' :: rest => (true, rest)
  | '+' :: rest => (false, rest)
  | text => (false, text)

end Literal

def Format.readLiteral (f : Format) (text : List Char) : Except LiteralFault (Datum f) :=
  if text.isEmpty then .error .empty
  else
    let (negative, unsigned) := Literal.sign text
    match (Literal.digits? f negative unsigned).or (Literal.name? f negative unsigned) with
    | some datum => .ok datum
    | none => .error .malformed

end DotPath.Binary
