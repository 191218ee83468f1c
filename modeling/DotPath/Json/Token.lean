import DotPath.Binary.Decimal
import DotPath.Json.Basic
import DotPath.Text.Digits

/-!
JSON text as a sequence of tokens.  Blank space between tokens is a space, a tab, a line feed or a
carriage return; a token is a bracket, a separator, a string, or one of the scalars without quotes.
-/

set_option autoImplicit false
set_option relaxedAutoImplicit false

namespace DotPath.Json

open DotPath.Binary (binary64)

/-- A token of JSON text.  A string is a token of its own since it may be a key as well as a
value. -/
inductive Token where
  | openArray
  | closeArray
  | openObject
  | closeObject
  | comma
  | colon
  | quoted (content : String)
  | scalar (value : Json)

namespace Token

def hexDigit? (c : Char) : Option Nat :=
  if c.isDigit then some (c.toNat - 48)
  else if 'a' ≤ c ∧ c ≤ 'f' then some (c.toNat - 87)
  else if 'A' ≤ c ∧ c ≤ 'F' then some (c.toNat - 55)
  else none

def unit? (a b c d : Char) : Option Nat := do
  pure (4096 * (← hexDigit? a) + 256 * (← hexDigit? b) + 16 * (← hexDigit? c) + (← hexDigit? d))

def escape? : Char → Option Char
  | '"' => some '"'
  | '\\' => some '\\'
  | '/' => some '/'
  | 'b' => some '\x08'
  | 'f' => some '\x0c'
  | 'n' => some '\n'
  | 'r' => some '\r'
  | 't' => some '\t'
  | _ => none

def surrogatePair? (high low : Nat) : Option Char :=
  if 0xD800 ≤ high ∧ high ≤ 0xDBFF ∧ 0xDC00 ≤ low ∧ low ≤ 0xDFFF then
    some (Char.ofNat (0x10000 + 0x400 * (high - 0xD800) + (low - 0xDC00)))
  else none

/-- The content of a string from behind its opening quote, and the text behind its closing quote.
A surrogate unit has to stand in a pair, and control characters have to be escaped. -/
def string? : List Char → Option (List Char × List Char)
  | [] => none
  | '"' :: rest => some ([], rest)
  | '\\' :: 'u' :: a :: b :: c :: d :: '\\' :: 'u' :: e :: f :: g :: h :: rest => do
      let first ← unit? a b c d
      if 0xD800 ≤ first ∧ first ≤ 0xDFFF then
        let character ← surrogatePair? first (← unit? e f g h)
        let (content, behind) ← string? rest
        pure (character :: content, behind)
      else
        let (content, behind) ← string? ('\\' :: 'u' :: e :: f :: g :: h :: rest)
        pure (Char.ofNat first :: content, behind)
  | '\\' :: 'u' :: a :: b :: c :: d :: rest => do
      let first ← unit? a b c d
      if 0xD800 ≤ first ∧ first ≤ 0xDFFF then none
      else
        let (content, behind) ← string? rest
        pure (Char.ofNat first :: content, behind)
  | '\\' :: c :: rest => do
      let character ← escape? c
      let (content, behind) ← string? rest
      pure (character :: content, behind)
  | c :: rest => do
      if c.toNat < 32 ∨ c = '\\' then none
      else
        let (content, behind) ← string? rest
        pure (c :: content, behind)

def fraction? : List Char → Option (Option (List Char) × List Char)
  | '.' :: rest =>
      let (digits, behind) := Text.spanDigits rest
      if digits.isEmpty then none else some (some digits, behind)
  | rest => some (none, rest)

def exponent? : List Char → Option (Option Int × List Char)
  | c :: rest =>
      if c = 'e' ∨ c = 'E' then
        let (negative, unsigned) :=
          match rest with
          | '-' :: more => (true, more)
          | '+' :: more => (false, more)
          | more => (false, more)
        let (digits, behind) := Text.spanDigits unsigned
        if digits.isEmpty then none
        else
          let magnitude : Int := Text.value digits
          some (some (if negative then -magnitude else magnitude), behind)
      else some (none, c :: rest)
  | [] => some (none, [])

/-- The number with the given sign, whole digits, fraction digits and exponent: an integer if it is
written as one and fits, else the nearest float, which has to be finite.  That it is the nearest is
an assumption: a reader that multiplies by a power of ten in floats rounds more than once, and may
end beside it. -/
def number? (negative : Bool) (whole : List Char) (fraction : Option (List Char))
    (exponent : Option Int) : Option Number :=
  let significand := Text.value (whole ++ fraction.getD [])
  let power := exponent.getD 0 - (fraction.getD []).length
  let nearest : Option Number :=
    match binary64.ofDecimal negative significand power with
    | .finite x => some (.float x)
    | _ => none
  let k : Int := if negative then -significand else significand
  if fraction.isSome ∨ exponent.isSome ∨ (negative ∧ significand = 0) then nearest
  else if exact : IsExact k then some (.integer k exact)
  else nearest

/-- A number without its minus sign, and the text behind it.  Only zero starts with the digit
zero. -/
def unsigned? (negative : Bool) (text : List Char) : Option (Token × List Char) := do
  let (whole, behindWhole) :=
    match text with
    | '0' :: rest => (['0'], rest)
    | other => Text.spanDigits other
  if whole.isEmpty then none
  else
    let (fraction, behindFraction) ← fraction? behindWhole
    let (exponent, behind) ← exponent? behindFraction
    let number ← number? negative whole fraction exponent
    pure (.scalar (.number number), behind)

def next? : List Char → Option (Token × List Char)
  | '[' :: rest => some (.openArray, rest)
  | ']' :: rest => some (.closeArray, rest)
  | '\x7b' :: rest => some (.openObject, rest)
  | '\x7d' :: rest => some (.closeObject, rest)
  | ',' :: rest => some (.comma, rest)
  | ':' :: rest => some (.colon, rest)
  | '"' :: rest => (string? rest).map fun (content, behind) =>
      (.quoted (String.ofList content), behind)
  | 'n' :: 'u' :: 'l' :: 'l' :: rest => some (.scalar .null, rest)
  | 't' :: 'r' :: 'u' :: 'e' :: rest => some (.scalar (.bool true), rest)
  | 'f' :: 'a' :: 'l' :: 's' :: 'e' :: rest => some (.scalar (.bool false), rest)
  | '-' :: rest => unsigned? true rest
  | text => unsigned? false text

def isSpace (c : Char) : Bool :=
  c = ' ' || c = '\t' || c = '\n' || c = '\r'

def upTo? : Nat → List Char → Option (List Token)
  | 0, text => if text.all isSpace then some [] else none
  | fuel + 1, text =>
      match text.dropWhile isSpace with
      | [] => some []
      | front => do
          let (token, behind) ← next? front
          let tokens ← upTo? fuel behind
          pure (token :: tokens)

/-- The tokens of a text.  Every token takes a character, so there are no more than these. -/
def ofText? (text : List Char) : Option (List Token) :=
  upTo? text.length text

end Token

end DotPath.Json
