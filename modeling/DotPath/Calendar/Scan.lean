import DotPath.Calendar.DateTime
import DotPath.Text.Blank
import DotPath.Text.Digits

/-!
Steps that readers of calendar text have in common.  Each takes a part off the front of a text and
gives what it read with the text behind it.
-/

set_option autoImplicit false
set_option relaxedAutoImplicit false

namespace DotPath.Calendar

def literal? (c : Char) : List Char → Option (List Char)
  | first :: rest => if first = c then some rest else none
  | [] => none

/-- A number of at least `least` digits, of which at most `most` are taken. -/
def number? (least most : Nat) (text : List Char) : Option (Nat × List Char) :=
  let taken := (text.takeWhile Char.isDigit).take most
  if taken.length < least then none else some (Text.value taken, text.drop taken.length)

def wholeNumber? (least : Nat) (text : List Char) : Option (Nat × Nat × List Char) :=
  let (taken, rest) := Text.spanDigits text
  if taken.length < least then none else some (Text.value taken, taken.length, rest)

/-- The nanoseconds that the digits behind a point denote.  Digits past the ninth are skipped. -/
def nanoseconds? (text : List Char) : Option (Nat × List Char) :=
  let (run, rest) := Text.spanDigits text
  let taken := run.take 9
  if taken.isEmpty then none else some (Text.value taken * 10 ^ (9 - taken.length), rest)

def fraction? : List Char → Option (Nat × List Char)
  | '.' :: rest => nanoseconds? rest
  | text => some (0, text)

def blank? : List Char → Option (List Char)
  | c :: rest => if Text.isBlank c then some (Text.trimStart rest) else none
  | [] => none

/-- The minutes of an offset behind its sign: two digits of hours, a separator that the given step
takes, and two digits of minutes below sixty. -/
def offsetMinutes? (separator : List Char → Option (List Char)) (text : List Char) :
    Option (Nat × List Char) := do
  let (hours, rest) ← number? 2 2 text
  let rest ← separator rest
  let (minutes, rest) ← number? 2 2 rest
  if 60 ≤ minutes then none else some (60 * hours + minutes, rest)

end DotPath.Calendar
