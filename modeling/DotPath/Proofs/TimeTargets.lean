import DotPath.Proofs.TimeForms

/-!
The two ways to read a node as a date and time agree.  One keeps the offset of the text and the
other gives universal time, and they try the forms of text in opposite orders; but as no text has
forms of both kinds, the order makes no difference.
-/

set_option autoImplicit false
set_option relaxedAutoImplicit false

namespace DotPath

namespace Calendar

/-! Universal time -/

namespace DateTime

theorem ofMinuteNumber_minuteNumber (t : DateTime) :
    ofMinuteNumber t.minuteNumber t.clock.second t.clock.nanosecond t.clock.in_bounds.2.2 = t := by
  obtain ⟨date, ⟨hour, minute, second, nanosecond, in_bounds⟩⟩ := t
  have hour_lt : hour < 24 := in_bounds.1
  have minute_lt : minute < 60 := in_bounds.2.1
  have day : (1440 * date.dayNumber + 60 * (hour : Int) + minute) / 1440 = date.dayNumber := by
    omega
  simp only [ofMinuteNumber, minuteNumber, day, Date.ofDayNumber_dayNumber, mk.injEq,
    Clock.mk.injEq, true_and, and_true]
  omega

theorem minuteNumber_ofMinuteNumber (minutes : Int) {second nanosecond : Nat}
    (bounds : second ≤ 60 ∧ nanosecond < 10 ^ (9 : Nat)) :
    (ofMinuteNumber minutes second nanosecond bounds).minuteNumber = minutes := by
  simp only [ofMinuteNumber, minuteNumber, Date.dayNumber_ofDayNumber]
  omega

end DateTime

namespace ZonedDateTime

theorem minuteNumber_utc (t : ZonedDateTime) :
    t.utc.minuteNumber = t.localTime.minuteNumber - t.offset.minutes :=
  DateTime.minuteNumber_ofMinuteNumber _ t.localTime.clock.in_bounds.2.2

theorem utc_ofUtc (t : DateTime) : (ofUtc t).utc = t := by
  have same : t.minuteNumber + -Offset.utc.minutes = t.minuteNumber := by simp [Offset.utc]
  simp only [utc, ofUtc, DateTime.addMinutes, same]
  exact t.ofMinuteNumber_minuteNumber

end ZonedDateTime

end Calendar

open Calendar (DateTime ZonedDateTime)

/-! Refusals -/

inductive Refusal where
  | notConvertible (kind : Kind)
  | unreadable (text : String) (reason : Unreadable)
  | outOfRange (value : String)

def Refusal.failure (target : ScalarType) : Refusal → Failure
  | .notConvertible kind => .notConvertible target kind
  | .unreadable text reason => .unreadable target text reason
  | .outOfRange value => .outOfRange target value

namespace Located

theorem exists_outcome_epochCount (here : Located) :
    ∃ count, here.epochCount.outcome = .ok count := by
  cases integer : (here.toInteger .i64).outcome with
  | ok k => exact ⟨if k = 0 then none else some k, by simp only [epochCount, integer]⟩
  | error failure => exact ⟨none, by simp only [epochCount, integer]⟩

/-- Reading a node as another type, with a function on the times behind every step, gives the same
reading: the function is applied to a time, and a refusal is one of the other type. -/
theorem exists_reading_of_toTime {α β : Type} (f : α → β) (target other : ScalarType)
    (ofEpoch : DateTime → α) (ofText? : List Char → Option α) (here : Located) :
    ∃ reading : Except Refusal α,
      (here.toTime target ofEpoch ofText?).outcome = reading.mapError (Refusal.failure target) ∧
        (here.toTime other (fun time => f (ofEpoch time))
            (fun text => (ofText? text).map f)).outcome =
          (reading.map f).mapError (Refusal.failure other) := by
  obtain ⟨count, outcome⟩ := here.exists_outcome_epochCount
  simp only [toTime, Logged.outcome_bind, outcome, Except.bind]
  cases count with
  | some count =>
    simp only [timeOfEpoch]
    split
    · exact ⟨.ok _, rfl, rfl⟩
    · exact ⟨.error (.outOfRange _), rfl, rfl⟩
  | none =>
    cases here with
    | missing => exact ⟨.error (.notConvertible _), rfl, rfl⟩
    | found node =>
      cases node with
      | string text =>
        cases read : ofText? (Text.trim text.toList) with
        | some time => exact ⟨.ok time, by simp only [read]; rfl, by simp only [read]; rfl⟩
        | none =>
          exact ⟨.error (.unreadable _ _), by simp only [read]; rfl, by simp only [read]; rfl⟩
      | _ => exact ⟨.error (.notConvertible _), rfl, rfl⟩

theorem readPlain?_or_readZoned? (text : List Char) :
    (Calendar.readPlain? text).or ((readZoned? text).map ZonedDateTime.utc) =
      ((readZoned? text).or ((Calendar.readPlain? text).map ZonedDateTime.ofUtc)).map
        ZonedDateTime.utc := by
  cases zoned : readZoned? text with
  | some time => rw [readPlain?_eq_none_of_zoned zoned, Option.none_or, Option.some_or]
  | none =>
    cases Calendar.readPlain? text with
    | none => rfl
    | some time => exact congrArg some (ZonedDateTime.utc_ofUtc time).symm

private def zonedOfText? (text : List Char) : Option ZonedDateTime :=
  (readZoned? text).or ((Calendar.readPlain? text).map ZonedDateTime.ofUtc)

private theorem toDateTime_eq_toTime (here : Located) :
    here.toDateTime = here.toTime .dateTime (fun time => (ZonedDateTime.ofUtc time).utc)
      (fun text => (zonedOfText? text).map ZonedDateTime.utc) := by
  have times : (fun time => (ZonedDateTime.ofUtc time).utc) = id :=
    funext ZonedDateTime.utc_ofUtc
  have texts : (fun text => (zonedOfText? text).map ZonedDateTime.utc) =
      fun text => (Calendar.readPlain? text).or ((readZoned? text).map ZonedDateTime.utc) :=
    funext fun text => (readPlain?_or_readZoned? text).symm
  rw [times, texts]
  rfl

theorem exists_reading_of_toDateTime (here : Located) :
    ∃ reading : Except Refusal ZonedDateTime,
      here.toZonedDateTime.outcome = reading.mapError (Refusal.failure .zonedDateTime) ∧
        here.toDateTime.outcome =
          (reading.map ZonedDateTime.utc).mapError (Refusal.failure .dateTime) := by
  rw [toDateTime_eq_toTime]
  exact exists_reading_of_toTime ZonedDateTime.utc .zonedDateTime .dateTime ZonedDateTime.ofUtc
    zonedOfText? here

/-- A node is a date and time exactly if it is one with an offset.  The one is then the other in
universal time, at the same second and nanosecond, so that a leap second stays one; and if it is
neither, both are refused for the same reason. -/
theorem toDateTime_eq_utc (here : Located) :
    ((∃ time, here.toDateTime.outcome = .ok time) ↔
        ∃ zoned, here.toZonedDateTime.outcome = .ok zoned) ∧
      (∀ time zoned, here.toDateTime.outcome = .ok time →
        here.toZonedDateTime.outcome = .ok zoned →
          time = zoned.utc ∧
            time.minuteNumber = zoned.localTime.minuteNumber - zoned.offset.minutes ∧
            time.clock.second = zoned.localTime.clock.second ∧
            time.clock.nanosecond = zoned.localTime.clock.nanosecond) ∧
      ∀ failure other, here.toDateTime.outcome = .error failure →
        here.toZonedDateTime.outcome = .error other →
          ∃ refusal : Refusal, failure = refusal.failure .dateTime ∧
            other = refusal.failure .zonedDateTime := by
  obtain ⟨reading, zoned_eq, plain_eq⟩ := here.exists_reading_of_toDateTime
  rw [zoned_eq, plain_eq]
  cases reading with
  | error refusal =>
    refine ⟨⟨?_, ?_⟩, ?_, ?_⟩
    · rintro ⟨time, read⟩
      cases read
    · rintro ⟨zoned, read⟩
      cases read
    · intro time zoned read
      cases read
    · intro failure other same sameOther
      cases same
      cases sameOther
      exact ⟨refusal, rfl, rfl⟩
  | ok zoned =>
    refine ⟨⟨fun _ => ⟨zoned, rfl⟩, fun _ => ⟨zoned.utc, rfl⟩⟩, ?_, ?_⟩
    · intro time other same sameOther
      cases same
      cases sameOther
      exact ⟨rfl, zoned.minuteNumber_utc, rfl, rfl⟩
    · intro failure other same
      cases same

end Located

end DotPath
