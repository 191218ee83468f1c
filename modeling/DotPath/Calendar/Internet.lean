import DotPath.Calendar.Plain

/-!
Internet timestamps (RFC 3339): a date of eight digits, a time of day with seconds, and an offset or
the letter for universal time.
-/

set_option autoImplicit false
set_option relaxedAutoImplicit false

namespace DotPath.Calendar.Internet

def separator? : List Char → Option (List Char)
  | 'T' :: rest => some rest
  | 't' :: rest => some rest
  | ' ' :: rest => some rest
  | _ => none

/-- The offset in minutes at the front of a text: the letter for universal time, or a sign with
hours and minutes.  The typographic minus sign counts as a sign. -/
def offset? : List Char → Option (Int × List Char)
  | 'Z' :: rest => some (0, rest)
  | 'z' :: rest => some (0, rest)
  | '+' :: rest => (offsetMinutes? (literal? ':') rest).map fun (n, behind) => (n, behind)
  | '-' :: rest => (offsetMinutes? (literal? ':') rest).map fun (n, behind) => (-n, behind)
  | '\u2212' :: rest => (offsetMinutes? (literal? ':') rest).map fun (n, behind) => (-n, behind)
  | _ => none

def fields? (text : List Char) : Option (Fields × List Char) := do
  let (year, rest) ← number? 4 4 text
  let (month, rest) ← number? 2 2 (← literal? '-' rest)
  let (day, rest) ← number? 2 2 (← literal? '-' rest)
  let (hour, rest) ← number? 2 2 (← separator? rest)
  let (minute, rest) ← number? 2 2 (← literal? ':' rest)
  let (second, rest) ← number? 2 2 (← literal? ':' rest)
  let (nanosecond, rest) ← fraction? rest
  pure ({ year, month, day, hour, minute, second, nanosecond }, rest)

def read? (text : List Char) : Option ZonedDateTime := do
  let (fields, rest) ← fields? text
  let (minutes, rest) ← offset? rest
  if rest.isEmpty then
    let time : ZonedDateTime := ⟨← fields.dateTime?, ← Offset.ofMinutes? minutes⟩
    if time.IsSupported then some time else none
  else none

end DotPath.Calendar.Internet
