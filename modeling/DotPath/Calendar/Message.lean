import DotPath.Calendar.Plain

/-!
Dates as message headers give them (RFC 2822): perhaps the day of the week, the day, the name of the
month, the year, a time of day, a zone by name or offset, and comments in parentheses.
-/

set_option autoImplicit false
set_option relaxedAutoImplicit false

namespace DotPath.Calendar.Message

def weekdayNames : List (List Char) :=
  ["mon", "tue", "wed", "thu", "fri", "sat", "sun"].map String.toList

def monthNames : List (List Char) :=
  ["jan", "feb", "mar", "apr", "may", "jun", "jul", "aug", "sep", "oct", "nov", "dec"].map
    String.toList

/-- The place of a three-letter name of either case at the front of a text in a list of names. -/
def name? (names : List (List Char)) (text : List Char) : Option (Nat × List Char) :=
  (names.findIdx? (· == (text.take 3).map Char.toLower)).map fun place => (place, text.drop 3)

/-- The day of the week at the front of a text, which a comma has to follow.  A text that starts
with no such name has none. -/
def weekday? (text : List Char) : Option (Option Nat × List Char) :=
  match name? weekdayNames text with
  | some (day, rest) => (literal? ',' rest).map fun behind => (some day, behind)
  | none => some (none, text)

/-- The year that a number stands for, by the count of its digits: two digits are years from 1950 to
2049, and three digits count from 1900. -/
def fullYear (count n : Nat) : Nat :=
  if count = 2 then if n < 50 then 2000 + n else 1900 + n
  else if count = 3 then 1900 + n
  else n

def zoneHours : List (List Char × Int) :=
  [("gmt", 0), ("ut", 0), ("edt", -4), ("est", -5), ("cdt", -5), ("cst", -6), ("mdt", -6),
    ("mst", -7), ("pdt", -7), ("pst", -8)].map fun (name, hours) => (name.toList, hours)

/-- The offset of a zone name in lower case, in minutes.  A single letter but the tenth is the zone
of universal time. -/
def zoneMinutes? (name : List Char) : Option Int :=
  match zoneHours.lookup name with
  | some hours => some (60 * hours)
  | none => if name.length = 1 ∧ name ≠ ['j'] then some 0 else none

def offset? (text : List Char) : Option (Int × List Char) :=
  match text.takeWhile Char.isAlpha with
  | [] =>
      match text with
      | '+' :: rest => (offsetMinutes? some rest).map fun (n, behind) => (n, behind)
      | '-' :: rest => (offsetMinutes? some rest).map fun (n, behind) => (-n, behind)
      | _ => none
  | name =>
      (zoneMinutes? (name.map Char.toLower)).map fun minutes => (minutes, text.drop name.length)

/-- The text behind a comment that is still open to the given depth.  A backslash takes the next
character out of consideration. -/
def closeComment? : Nat → List Char → Option (List Char)
  | _, [] => none
  | depth, '\\' :: _ :: rest => closeComment? depth rest
  | depth, '(' :: rest => closeComment? (depth + 1) rest
  | 0, ')' :: rest => some rest
  | depth + 1, ')' :: rest => closeComment? depth rest
  | depth, _ :: rest => closeComment? depth rest

def skipComments : Nat → List Char → List Char
  | 0, text => text
  | fuel + 1, text =>
      match Text.trimStart text with
      | '(' :: rest =>
          match closeComment? 0 rest with
          | some behind => skipComments fuel behind
          | none => text
      | _ => text

def seconds? (text : List Char) : Option (Nat × List Char) :=
  match Text.trimStart text with
  | ':' :: rest => number? 2 2 rest
  | _ => some (0, text)

def fields? (text : List Char) : Option (Fields × List Char) := do
  let (day, rest) ← number? 1 2 (Text.trimStart text)
  let (month, rest) ← name? monthNames (← blank? rest)
  let (year, count, rest) ← wholeNumber? 2 (← blank? rest)
  let (hour, rest) ← number? 2 2 (← blank? rest)
  let rest ← literal? ':' (Text.trimStart rest)
  let (minute, rest) ← number? 2 2 (Text.trimStart rest)
  let (second, rest) ← seconds? rest
  pure ({ year := fullYear count year, month := month + 1, day, hour, minute, second }, rest)

/-- The date and time of a message header.  A day of the week has to be the right one. -/
def read? (text : List Char) : Option ZonedDateTime := do
  let (weekday, rest) ← weekday? (Text.trimStart text)
  let (fields, rest) ← fields? rest
  let (minutes, rest) ← offset? (← blank? rest)
  if (skipComments rest.length rest).isEmpty then
    let time : ZonedDateTime := ⟨← fields.dateTime?, ← Offset.ofMinutes? minutes⟩
    if time.IsSupported ∧ weekday.all (· == time.localTime.date.weekday) then some time else none
  else none

end DotPath.Calendar.Message
