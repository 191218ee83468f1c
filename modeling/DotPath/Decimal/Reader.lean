import DotPath.Decimal.Basic
import DotPath.Numeral

/-!
Decimals from text.  Positional text may have a sign in front and underscores between digits, and is
rounded at the first digit that no longer fits; if it is not of that form, text with an exponent is
tried.  The plain text of a number is rounded half away from zero at the last possible place.
-/

set_option autoImplicit false
set_option relaxedAutoImplicit false

namespace DotPath.Decimal

inductive Fault where
  | empty
  | noDigits
  | leadingSeparator
  | secondPoint
  | unknownCharacter
  | tooManyDigits
  | roundedOutOfRange
  | badExponent
  | scaleTooGreat (scale : Nat)
  | tooGreat
  deriving DecidableEq

def Fault.message : Fault → String
  | .empty => "Invalid decimal: empty"
  | .noDigits => "Invalid decimal: no digits found"
  | .leadingSeparator => "Invalid decimal: must start lead with a number"
  | .secondPoint => "Invalid decimal: two decimal points"
  | .unknownCharacter => "Invalid decimal: unknown character"
  | .tooManyDigits => "Invalid decimal: overflow from too many digits"
  | .roundedOutOfRange => "Invalid decimal: overflow from mantissa after rounding"
  | .badExponent => "Failed to parse"
  | .scaleTooGreat scale =>
      "Scale exceeds the maximum precision allowed: " ++ Text.decimal scale ++ " > "
        ++ Text.decimal maxScale
  | .tooGreat => "Number exceeds maximum value that can be represented."

/-- Coefficients from here on are wide: with one more digit they may need more than 64 bits. -/
def wideCoefficient : Nat := (2 ^ (64 : Nat) - 1) / 10 - 255

structure Progress where
  negative : Bool := false
  coefficient : Nat := 0
  scale : Nat := 0
  pastPoint : Bool := false
  hasDigit : Bool := false

namespace Progress

def misplaced (c : Char) : Fault :=
  if c = '.' then .secondPoint
  else if c = '_' then .leadingSeparator
  else .unknownCharacter

def finish (p : Progress) : Except Fault Decimal :=
  if p.hasDigit then
    match ofParts? p.negative p.coefficient p.scale with
    | some d => .ok d
    | none => .error .tooManyDigits
  else .error .noDigits

/-- Holds of the characters that may stand behind the digits that fit. -/
def mayFollow (c : Char) : Bool :=
  c.isDigit || c = '_'

/-- The text of which the first character decides the rounding.  Underscores are passed over if the
coefficient was wide before its last digit; a narrower one takes an underscore for a zero. -/
def decidingText (p : Progress) (text : List Char) : List Char :=
  if wideCoefficient ≤ p.coefficient / 10 then text.dropWhile (· = '_') else text

/-- The decimal with its last place raised by one; if that no longer fits, the last place is given
up. -/
def raiseLast (p : Progress) : Except Fault Decimal :=
  let raised := p.coefficient + 1
  if raised < coefficientBound then { p with coefficient := raised }.finish
  else if p.scale = 0 then .error .roundedOutOfRange
  else { p with coefficient := (raised + 4) / 10, scale := p.scale - 1 }.finish

/-- The decimal of a text with more digits than fit, of which the rest is given.  One character
alone decides the rounding, a digit from five on upwards.  Rounding out of range counts before a
character behind it that may not stand there. -/
def roundAt (p : Progress) (text : List Char) : Except Fault Decimal :=
  match p.decidingText text with
  | [] => p.finish
  | next :: rest =>
      if mayFollow next then do
        let rounded ←
          if next.isDigit && 5 ≤ Text.digitValue next then p.raiseLast else p.finish
        match rest.find? (!mayFollow ·) with
        | some c => throw (misplaced c)
        | none => pure rounded
      else .error (misplaced next)

def read (p : Progress) : List Char → Except Fault Decimal
  | [] => p.finish
  | c :: rest =>
      if p.pastPoint ∧ maxScale ≤ p.scale then p.roundAt (c :: rest)
      else if c.isDigit then
        let coefficient := p.coefficient * 10 + Text.digitValue c
        if coefficient < coefficientBound then
          read { p with
            coefficient
            scale := if p.pastPoint then p.scale + 1 else p.scale
            hasDigit := true } rest
        else if p.pastPoint then p.roundAt (c :: rest)
        else .error .tooManyDigits
      else if c = '.' ∧ !p.pastPoint then read { p with pastPoint := true } rest
      else if c = '_' ∧ p.hasDigit then read p rest
      else .error (misplaced c)

end Progress

def readPositional : List Char → Except Fault Decimal
  | [] => .error .empty
  | '-' :: rest => Progress.read { negative := true } rest
  | '+' :: rest => Progress.read {} rest
  | text => Progress.read {} text

/-- An exponent of at most 32 bits, with an optional plus sign. -/
def readPower (text : List Char) : Except Fault Nat :=
  let digits :=
    match text with
    | '+' :: rest => rest
    | other => other
  if Text.isNumeral digits ∧ Text.value digits < 2 ^ (32 : Nat) then .ok (Text.value digits)
  else .error .badExponent

def ofParts (negative : Bool) (coefficient scale : Nat) : Except Fault Decimal :=
  match ofParts? negative coefficient scale with
  | some d => .ok d
  | none => .error .tooGreat

def lower (d : Decimal) (power : Nat) : Except Fault Decimal :=
  if maxScale < power then .error (.scaleTooGreat power) else .ok (d.shiftRight power)

/-- A decimal times ten to a power: the scale shrinks, and past that the coefficient grows. -/
def raise (d : Decimal) (power : Nat) : Except Fault Decimal :=
  if power ≤ d.scale then ofParts d.negative d.coefficient (d.scale - power)
  else if maxScale < power then .error (.scaleTooGreat power)
  else ofParts d.negative (d.coefficient * 10 ^ (power - d.scale)) 0

def readScientific (mantissa exponent : List Char) : Except Fault Decimal := do
  let base ← readPositional mantissa
  match exponent with
  | '-' :: rest => base.lower (← readPower rest)
  | other => base.raise (← readPower other)

/-- The decimal of a text in either form.  Text without an exponent mark keeps the fault of the
positional form. -/
def ofText (text : List Char) : Except Fault Decimal :=
  match readPositional text with
  | .ok d => .ok d
  | .error fault =>
      match Numeral.cut (fun c => c = 'e' || c = 'E') text with
      | (mantissa, some exponent) => readScientific mantissa exponent
      | (_, none) => .error fault

/-- The decimal of a plain number text, rounded half away from zero at the last possible place. -/
def ofPlain (text : List Char) : Except Fault Decimal :=
  let (whole, fraction) := Numeral.cut (· = '.') text
  match (fraction.getD []).drop maxScale with
  | [] => readPositional text
  | next :: _ => do
      let kept ← readPositional (whole ++ '.' :: (fraction.getD []).take maxScale)
      if Text.digitValue next < 5 then pure kept
      else
        match kept.awayByUlp? (text.head? = some '-') with
        | some rounded => pure rounded
        | none => throw .tooGreat

end DotPath.Decimal
