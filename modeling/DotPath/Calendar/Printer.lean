import DotPath.Calendar.DateTime
import DotPath.Text.Digits

/-!
Dates and times as text.  Years of four digits have no sign, all others have one; a fraction has
three, six or nine digits, as few as it takes, and none if it is zero.
-/

set_option autoImplicit false
set_option relaxedAutoImplicit false

namespace DotPath.Calendar

/-- A year with at least four digits, and with a sign unless it is one of years 0 to 9999. -/
def yearText (year : Int) : List Char :=
  let digits := Text.paddedDigits 4 year.natAbs
  if year < 0 then '-' :: digits
  else if 9999 < year then '+' :: digits
  else digits

def Date.text (d : Date) : List Char :=
  yearText d.year ++ '-' :: Text.paddedDigits 2 d.month ++ '-' :: Text.paddedDigits 2 d.day

def fractionText (nanosecond : Nat) : List Char :=
  if nanosecond = 0 then []
  else if nanosecond % 1000000 = 0 then '.' :: Text.paddedDigits 3 (nanosecond / 1000000)
  else if nanosecond % 1000 = 0 then '.' :: Text.paddedDigits 6 (nanosecond / 1000)
  else '.' :: Text.paddedDigits 9 nanosecond

def Clock.text (c : Clock) : List Char :=
  Text.paddedDigits 2 c.hour ++ ':' :: Text.paddedDigits 2 c.minute ++
    ':' :: Text.paddedDigits 2 c.second ++ fractionText c.nanosecond

def DateTime.textWith (separator : Char) (t : DateTime) : List Char :=
  t.date.text ++ separator :: t.clock.text

def DateTime.text (t : DateTime) : List Char :=
  t.textWith ' '

def Offset.text (offset : Offset) : List Char :=
  let sign := if offset.minutes < 0 then '-' else '+'
  sign :: Text.paddedDigits 2 (offset.minutes.natAbs / 60) ++
    ':' :: Text.paddedDigits 2 (offset.minutes.natAbs % 60)

def ZonedDateTime.text (t : ZonedDateTime) : List Char :=
  t.localTime.textWith 'T' ++ t.offset.text

end DotPath.Calendar
