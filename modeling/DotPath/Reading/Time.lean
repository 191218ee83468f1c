import DotPath.Calendar.Internet
import DotPath.Calendar.Message
import DotPath.Calendar.Printer
import DotPath.Reading.Integer

/-!
Reading nodes as dates and times.  A node that is a nonzero 64-bit integer counts seconds, or
milliseconds if it is too great for a year of four digits; any other text is read by the forms of
the calendar.
-/

set_option autoImplicit false
set_option relaxedAutoImplicit false

namespace DotPath

open Calendar (DateTime ZonedDateTime)

/-- The greatest magnitude that counts seconds: the last second of the year 9999. -/
def epochSecondsBound : Nat := 253402300799

def epochSeconds (count : Int) : Int :=
  if count.natAbs ≤ epochSecondsBound then count else count.tdiv 1000

def readZoned? (text : List Char) : Option ZonedDateTime :=
  (Calendar.Internet.read? text).or (Calendar.Message.read? text)

namespace Located

/-- The epoch count of a node, if it has one.  Why it has none is noted, and not a failure. -/
def epochCount (here : Located) : Logged (Option Int) :=
  let count := here.toInteger .i64
  match count.outcome with
  | .ok k => ⟨count.events, .ok (if k = 0 then none else some k)⟩
  | .error failure => ⟨count.events ++ [.noEpoch failure], .ok none⟩

def timeOfEpoch (target : ScalarType) (count : Int) : Logged DateTime :=
  let time := DateTime.ofEpochSeconds (epochSeconds count)
  if time.IsSupported then pure time else .outOfRange target (Text.signedDigits count)

/-- Reads a node by its epoch count, or else a text with blank space around it by calendar forms. -/
def toTime {α : Type} (target : ScalarType) (ofEpoch : DateTime → α)
    (ofText? : List Char → Option α) (here : Located) : Logged α := do
  match ← here.epochCount with
  | some count =>
      let time ← timeOfEpoch target count
      pure (ofEpoch time)
  | none =>
      match here with
      | .found (.string text) =>
          match ofText? (Text.trim text.toList) with
          | some time => pure time
          | none => .unreadable target text .unknownDateForm
      | other => .notConvertible target other.kind

/-- The date and time of a node, in universal time.  Forms without an offset are tried first. -/
def toDateTime (here : Located) : Logged DateTime :=
  here.toTime .dateTime id fun text =>
    (Calendar.readPlain? text).or ((readZoned? text).map ZonedDateTime.utc)

/-- The date and time of a node with its offset.  Forms with an offset are tried first, and without
one the time is universal. -/
def toZonedDateTime (here : Located) : Logged ZonedDateTime :=
  here.toTime .zonedDateTime .ofUtc fun text =>
    (readZoned? text).or ((Calendar.readPlain? text).map ZonedDateTime.ofUtc)

end Located

end DotPath
