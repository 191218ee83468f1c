import DotPath.Calendar.Date
import DotPath.Power

/-!
Dates with a time of day, with and without an offset from universal time.  A leap second is the
second 60 of its minute; offsets are whole minutes, so that moving between local and universal time
leaves seconds alone.
-/

set_option autoImplicit false
set_option relaxedAutoImplicit false

namespace DotPath.Calendar

/-- The bounds of a time of day; second 60 is a leap second. -/
def IsClock (hour minute second nanosecond : Nat) : Prop :=
  hour < 24 ∧ minute < 60 ∧ second ≤ 60 ∧ nanosecond < 10 ^ (9 : Nat)

instance (hour minute second nanosecond : Nat) :
    Decidable (IsClock hour minute second nanosecond) :=
  inferInstanceAs (Decidable (_ ∧ _ ∧ _ ∧ _))

structure Clock where
  hour : Nat
  minute : Nat
  second : Nat
  nanosecond : Nat
  in_bounds : IsClock hour minute second nanosecond
  deriving DecidableEq

def Clock.ofParts? (hour minute second nanosecond : Nat) : Option Clock :=
  if in_bounds : IsClock hour minute second nanosecond then
    some ⟨hour, minute, second, nanosecond, in_bounds⟩
  else none

def Clock.midnight : Clock :=
  ⟨0, 0, 0, 0, by decide⟩

structure DateTime where
  date : Date
  clock : Clock
  deriving DecidableEq

/-- An offset from universal time of less than a day, in minutes. -/
structure Offset where
  minutes : Int
  lt_day : -1440 < minutes ∧ minutes < 1440
  deriving DecidableEq

def Offset.utc : Offset :=
  ⟨0, by decide⟩

def Offset.ofMinutes? (minutes : Int) : Option Offset :=
  if lt_day : -1440 < minutes ∧ minutes < 1440 then some ⟨minutes, lt_day⟩ else none

/-- A local date and time with the offset from universal time that it is given in. -/
structure ZonedDateTime where
  localTime : DateTime
  offset : Offset
  deriving DecidableEq

namespace DateTime

/-- The minutes from the start of 1 January 1970 to the minute of a date and time. -/
def minuteNumber (t : DateTime) : Int :=
  1440 * t.date.dayNumber + 60 * t.clock.hour + t.clock.minute

/-- The seconds from the start of 1 January 1970 to the second of a date and time. -/
def epochSeconds (t : DateTime) : Int :=
  60 * t.minuteNumber + t.clock.second

def ofMinuteNumber (minutes : Int) (second nanosecond : Nat)
    (bounds : second ≤ 60 ∧ nanosecond < 10 ^ (9 : Nat)) : DateTime where
  date := .ofDayNumber (minutes / 1440)
  clock :=
    { hour := (minutes % 1440 / 60).toNat
      minute := (minutes % 60).toNat
      second
      nanosecond
      in_bounds := ⟨by omega, by omega, bounds⟩ }

def addMinutes (t : DateTime) (minutes : Int) : DateTime :=
  ofMinuteNumber (t.minuteNumber + minutes) t.clock.second t.clock.nanosecond t.clock.in_bounds.2.2

def ofEpochSeconds (seconds : Int) : DateTime :=
  ofMinuteNumber (seconds / 60) (seconds % 60).toNat 0 ⟨by omega, by decide⟩

def IsSupported (t : DateTime) : Prop :=
  t.date.IsSupported

instance (t : DateTime) : Decidable t.IsSupported :=
  inferInstanceAs (Decidable t.date.IsSupported)

end DateTime

namespace ZonedDateTime

def utc (t : ZonedDateTime) : DateTime :=
  t.localTime.addMinutes (-t.offset.minutes)

def ofUtc (t : DateTime) : ZonedDateTime :=
  ⟨t, .utc⟩

def IsSupported (t : ZonedDateTime) : Prop :=
  t.localTime.IsSupported ∧ t.utc.IsSupported

instance (t : ZonedDateTime) : Decidable t.IsSupported :=
  inferInstanceAs (Decidable (_ ∧ _))

end ZonedDateTime

end DotPath.Calendar
