import DotPath.Proofs.CalendarForms

/-!
Printed dates and times are read back.  The text of a time is that time in a form with seconds, with
as many digits of the fraction as keep it, and the text of an offset is a zone with a sign.  What a
node is read as is in a supported year, and such a time is kept by the form that it is printed in.
-/

set_option autoImplicit false
set_option relaxedAutoImplicit false

namespace DotPath

namespace Calendar

/-! Printed text as a form -/

theorem Clock.toPlaces_eq_self {places : Nat} {c : Clock}
    (kept : keptFraction places c.nanosecond = c.nanosecond) : c.toPlaces places = c := by
  unfold toPlaces
  simp only [kept]

/-- A date and time is printed in a form with seconds that keeps it. -/
theorem DateTime.exists_form_eq (separator : Separator) (t : DateTime) :
    ∃ places, t.textWith separator.char = (Form.second separator places).text t ∧
      (Form.second separator places).kept t = t := by
  obtain ⟨places, le, digits, kept⟩ := exists_fractionText_eq t.clock.nanosecond
  refine ⟨⟨places, Nat.lt_succ_of_le le⟩, ?_, ?_⟩
  · simp [textWith, Clock.text, Form.text, Clock.minutesText, Clock.secondsText, digits]
  · rw [Form.kept, Clock.toPlaces_eq_self kept]

namespace Offset

variable (offset : Offset)

def zone : Zone :=
  .signed (decide (offset.minutes < 0))
    ⟨offset.minutes.natAbs / 60, by have within := offset.lt_day; omega⟩
    ⟨offset.minutes.natAbs % 60, Nat.mod_lt _ (by decide)⟩

theorem text_zone : offset.zone.text = offset.text := by
  simp [zone, Zone.text, text]

theorem offset_zone : offset.zone.offset = offset := by
  have parts := Nat.div_add_mod offset.minutes.natAbs 60
  have ahead : offset.zone.ahead = offset.minutes := by
    unfold zone Zone.ahead
    simp only [parts, decide_eq_true_eq]
    split <;> omega
  unfold Zone.offset
  simp only [ahead]

end Offset

/-! Supported years -/

theorem isSupported_of_dateTime? {fields : Fields} {time : DateTime}
    (read : fields.dateTime? = some time) : time.IsSupported := by
  simp only [Fields.dateTime?, Option.bind_eq_bind, Option.bind_eq_some_iff] at read
  obtain ⟨date, -, clock, -, kept⟩ := read
  split at kept
  next supported =>
    cases kept
    exact supported
  next => cases kept

theorem isSupported_of_readPlain? {text : List Char} {time : DateTime}
    (read : readPlain? text = some time) : time.IsSupported := by
  obtain ⟨form, -, read⟩ := List.exists_of_findSome?_eq_some read
  obtain ⟨fields, -, time_read⟩ := Option.bind_eq_some_iff.mp read
  exact isSupported_of_dateTime? time_read

theorem of_tested {time? : Option DateTime} {offset? : Option Offset} {P : ZonedDateTime → Prop}
    [DecidablePred P] {zoned : ZonedDateTime}
    (read : (time?.bind fun time => offset?.bind fun offset =>
      if P ⟨time, offset⟩ then some ⟨time, offset⟩ else none) = some zoned) : P zoned := by
  simp only [Option.bind_eq_some_iff] at read
  obtain ⟨time, -, offset, -, kept⟩ := read
  split at kept
  next holds =>
    cases kept
    exact holds
  next => cases kept

theorem Internet.isSupported_of_read? {text : List Char} {zoned : ZonedDateTime}
    (read : read? text = some zoned) : zoned.IsSupported := by
  simp only [read?, Option.bind_eq_bind, Option.bind_eq_some_iff, Prod.exists] at read
  obtain ⟨fields, behind, -, minutes, rest, -, last⟩ := read
  split at last
  next => exact of_tested last
  next => cases last

theorem Message.isSupported_of_read? {text : List Char} {zoned : ZonedDateTime}
    (read : read? text = some zoned) : zoned.IsSupported := by
  simp only [read?, Option.bind_eq_bind, Option.bind_eq_some_iff, Prod.exists] at read
  obtain ⟨weekday, dated, -, fields, spaced, -, blank, -, minutes, rest, -, last⟩ := read
  split at last
  next =>
    have tested := of_tested (P := fun time => time.IsSupported ∧
      weekday.all (· == time.localTime.date.weekday) = true) last
    exact tested.1
  next => cases last

end Calendar

open Calendar (DateTime Form ZonedDateTime)

theorem isSupported_of_readZoned? {text : List Char} {zoned : ZonedDateTime}
    (read : readZoned? text = some zoned) : zoned.IsSupported := by
  rcases Option.or_eq_some_iff.mp read with internet | ⟨-, message⟩
  · exact Calendar.Internet.isSupported_of_read? internet
  · exact Calendar.Message.isSupported_of_read? message

namespace Located

variable {here : Located}

/-- What holds of the times of all epoch counts and of all texts holds of what a node is read as. -/
theorem of_outcome_toTime {α : Type} {target : ScalarType} {ofEpoch : DateTime → α}
    {ofText? : List Char → Option α} {P : α → Prop}
    (epoch : ∀ time : DateTime, time.IsSupported → P (ofEpoch time))
    (text : ∀ text time, ofText? text = some time → P time) {time : α}
    (read : (here.toTime target ofEpoch ofText?).outcome = .ok time) : P time := by
  obtain ⟨count, -, read⟩ := Logged.outcome_bind_eq_ok_iff.mp read
  cases count with
  | some count =>
    obtain ⟨counted, instant, read⟩ := Logged.outcome_bind_eq_ok_iff.mp read
    cases read
    apply epoch
    simp only [timeOfEpoch] at instant
    split at instant
    next supported =>
      cases instant
      exact supported
    next => cases instant
  | none =>
    cases here with
    | missing => cases read
    | found node =>
      cases node with
      | string content =>
        cases form : ofText? (Text.trim content.toList) with
        | some other =>
          simp only [form] at read
          cases read
          exact text _ _ form
        | none =>
          simp only [form] at read
          cases read
      | _ => cases read

theorem isSupported_of_toDateTime {time : DateTime} (read : here.toDateTime.outcome = .ok time) :
    time.IsSupported := by
  refine of_outcome_toTime (fun _ supported => supported) (fun text other form => ?_) read
  rcases Option.or_eq_some_iff.mp form with plain | ⟨-, zoned⟩
  · exact Calendar.isSupported_of_readPlain? plain
  · obtain ⟨moved, zoned_read, rfl⟩ := Option.map_eq_some_iff.mp zoned
    exact (isSupported_of_readZoned? zoned_read).2

theorem outcome_toDateTime_text {time : DateTime} (supported : time.IsSupported) :
    (found (.string (String.ofList time.text))).toDateTime.outcome = .ok time := by
  obtain ⟨places, text, kept⟩ := time.exists_form_eq .space
  have printed : time.text = (Form.second .space places).text time := text
  rw [printed]
  have plain := Calendar.readPlain?_text (Form.second .space places) supported
  rw [kept] at plain
  exact (outcome_toTimes_of_plain (.form _ time) plain).1

theorem outcome_toZonedDateTime_text {zoned : ZonedDateTime}
    (first : 0 ≤ zoned.localTime.date.year) (last : zoned.localTime.date.year ≤ 9999) :
    (found (.string (String.ofList zoned.text))).toZonedDateTime.outcome = .ok zoned := by
  obtain ⟨places, text, kept⟩ := zoned.localTime.exists_form_eq .letter
  have printed : zoned.text =
      (Form.second .letter places).text zoned.localTime ++ zoned.offset.zone.text := by
    rw [← text, zoned.offset.text_zone]
    rfl
  have internet := Calendar.Internet.read?_text first last .letter places zoned.offset.zone
  rw [kept, zoned.offset.offset_zone, ← printed] at internet
  have read : readZoned? zoned.text = some zoned := by
    rw [readZoned?, internet]
    rfl
  have dated : IsDated zoned.text := by
    rw [printed]
    exact (IsDated.form _ _).append zoned.offset.zone.text_ne_nil
      zoned.offset.zone.forall_not_isBlank_text
  exact (outcome_toTimes_of_zoned dated read).1

/-- Printed dates and times are read back.  The text of what a node is read as gives the same date
and time again, whatever its year, fraction or leap second; with an offset so long as the local year
has four digits, and then with the same offset.  The times that nodes are read as are just those in
supported years. -/
theorem toTime_of_printed (here : Located) :
    (∀ time : DateTime, here.toDateTime.outcome = .ok time →
        (found (.string (String.ofList time.text))).toDateTime.outcome = .ok time) ∧
      (∀ zoned : ZonedDateTime, here.toZonedDateTime.outcome = .ok zoned →
        0 ≤ zoned.localTime.date.year → zoned.localTime.date.year ≤ 9999 →
          (found (.string (String.ofList zoned.text))).toZonedDateTime.outcome = .ok zoned) ∧
      (∀ time : DateTime,
        (∃ there : Located, there.toDateTime.outcome = .ok time) ↔ time.IsSupported) := by
  refine ⟨fun time read => ?_, fun zoned _ => ?_, fun time => ⟨?_, fun supported => ?_⟩⟩
  · exact outcome_toDateTime_text (isSupported_of_toDateTime read)
  · exact outcome_toZonedDateTime_text
  · rintro ⟨there, read⟩
    exact isSupported_of_toDateTime read
  · exact ⟨_, outcome_toDateTime_text supported⟩

theorem toTime_of_printed_leap_second :
    let zoned : ZonedDateTime :=
      ⟨⟨⟨2023, 12, 31, by decide⟩, ⟨23, 59, 60, 0, by decide⟩⟩, ⟨-210, by decide⟩⟩
    (found (.string "Sun, 31 Dec 2023 23:59:60 -0330")).toZonedDateTime.outcome = .ok zoned ∧
      zoned.text = "2023-12-31T23:59:60-03:30".toList ∧
      (found (.string (String.ofList zoned.text))).toZonedDateTime.outcome = .ok zoned ∧
      (found (.string (String.ofList zoned.utc.text))).toDateTime.outcome = .ok zoned.utc := by
  intro zoned
  have header : (found (.string "Sun, 31 Dec 2023 23:59:60 -0330")).toZonedDateTime.outcome =
      .ok zoned := rfl
  have universal : (found (.string "Sun, 31 Dec 2023 23:59:60 -0330")).toDateTime.outcome =
      .ok zoned.utc := rfl
  obtain ⟨plain, zoned_back, -⟩ := toTime_of_printed
    (found (.string "Sun, 31 Dec 2023 23:59:60 -0330"))
  have printed : zoned.text = "2023-12-31T23:59:60-03:30".toList := by decide +kernel
  exact ⟨header, printed, zoned_back zoned header (by decide) (by decide), plain _ universal⟩

end Located

end DotPath
