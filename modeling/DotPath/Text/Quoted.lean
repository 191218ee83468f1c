import DotPath.Text.Blank
import DotPath.Text.GraphemeExtend
import DotPath.Text.Unprintable

/-!
Quoted text, as it stands in messages and log lines: between double quotes, with a backslash form
for the quote, the backslash, the usual controls, and every character that would not show on its
own.
-/

set_option autoImplicit false
set_option relaxedAutoImplicit false

namespace DotPath.Text

def extendsGrapheme (c : Char) : Bool :=
  inRanges graphemeExtendRanges c.toNat

/-- Holds of the halfwidth sound marks, which extend a grapheme but have a place of their own. -/
def isSoundMark (c : Char) : Bool :=
  c = '\uff9e' || c = '\uff9f'

def isPrintable (c : Char) : Bool :=
  32 ≤ c.toNat && !inRanges unprintableRanges c.toNat && (!extendsGrapheme c || isSoundMark c)

/-- A character by its code point in lower case hexadecimal digits. -/
def codePointForm (c : Char) : List Char :=
  ['\\', 'u', '\x7b'] ++ Nat.toDigits 16 c.toNat ++ ['\x7d']

def quotedChar (c : Char) : List Char :=
  if c = '\x00' then ['\\', '0']
  else if c = '\t' then ['\\', 't']
  else if c = '\r' then ['\\', 'r']
  else if c = '\n' then ['\\', 'n']
  else if c = '"' ∨ c = '\\' then ['\\', c]
  else if !isPrintable c then codePointForm c
  else [c]

def quoted (text : List Char) : List Char :=
  '"' :: text.flatMap quotedChar ++ ['"']

def quote (text : String) : String :=
  String.ofList (quoted text.toList)

end DotPath.Text
