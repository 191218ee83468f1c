import DotPath.Json.Number

/-!
Numerals and their plain form.  A numeral has a sign, whole digits, fraction digits and an exponent;
its plain form writes the same number positionally, without exponent, needless zeros or a sign on
zero, so that two numerals have one plain form exactly when they are the same number.
-/

set_option autoImplicit false
set_option relaxedAutoImplicit false

namespace DotPath

structure Numeral where
  negative : Bool
  whole : List Char
  fraction : List Char
  exponent : Int

namespace Numeral

/-- A text split at the first character of a class, without that character. -/
def cut (isMark : Char → Bool) (text : List Char) : List Char × Option (List Char) :=
  match text.dropWhile (fun c => !isMark c) with
  | [] => (text, none)
  | _ :: rest => (text.takeWhile fun c => !isMark c, some rest)

def readExponent : List Char → Int
  | '-' :: rest => -(Text.value rest)
  | '+' :: rest => Text.value rest
  | rest => Text.value rest

def ofText (text : List Char) : Numeral :=
  let (negative, body) :=
    match text with
    | '-' :: rest => (true, rest)
    | rest => (false, rest)
  let (mantissa, exponent) := cut (fun c => c = 'e' || c = 'E') body
  let (whole, fraction) := cut (· = '.') mantissa
  { negative
    whole
    fraction := fraction.getD []
    exponent := (exponent.map readExponent).getD 0 }

def toRat (n : Numeral) : Rat :=
  let significand : Int := Text.value (n.whole ++ n.fraction)
  let power := n.exponent - n.fraction.length
  let magnitude := mkRat (significand * 10 ^ power.toNat) (10 ^ (-power).toNat)
  if n.negative then -magnitude else magnitude

/-- The digits of a numeral before and behind the point once its exponent is carried out. -/
def shifted (n : Numeral) : List Char × List Char :=
  let digits := n.whole ++ n.fraction
  let point := n.whole.length + n.exponent
  (digits.take point.toNat ++ List.replicate (point.toNat - digits.length) '0',
    List.replicate (-point).toNat '0' ++ digits.drop point.toNat)

/-- The whole digits without leading zeros; zero keeps one. -/
def stripLeading (digits : List Char) : List Char :=
  match digits.dropWhile (· = '0') with
  | [] => ['0']
  | stripped => stripped

def stripTrailing (digits : List Char) : List Char :=
  (digits.reverse.dropWhile (· = '0')).reverse

def plain (n : Numeral) : List Char :=
  let whole := stripLeading n.shifted.1
  let fraction := stripTrailing n.shifted.2
  let magnitude := if fraction.isEmpty then whole else whole ++ '.' :: fraction
  if n.negative ∧ magnitude ≠ ['0'] then '-' :: magnitude else magnitude

end Numeral

def plainText (text : List Char) : List Char :=
  (Numeral.ofText text).plain

namespace Json.Number

def plain : Number → List Char
  | .integer k _ => Text.signedDigits k
  | .float x => plainText (floatText x)

end Json.Number

end DotPath
