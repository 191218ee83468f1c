import DotPath.Proofs.IntegerReading
import DotPath.Proofs.TimeTargets

/-!
Epoch counts read exactly.  Day numbers count the days of the calendar, so the supported years are a
range of seconds; a nonzero count is read as just the instant of its seconds if that is in the
range, and is refused with its digits if not.
-/

set_option autoImplicit false
set_option relaxedAutoImplicit false

namespace DotPath

namespace Calendar

/-! Days -/

namespace Date

theorem daysBeforeMarchYear_eq_add (year : Int) :
    daysBeforeMarchYear year =
      daysBeforeMarchYear (year - 1) + if isLeapYear year then 366 else 365 := by
  have leap := isLeapYear_iff year
  unfold daysBeforeMarchYear
  split
  next is =>
    have parts := leap.mp is
    omega
  next is_not =>
    have parts := leap.not.mp is_not
    omega

theorem one_le_daysInMonth (year : Int) (month : Nat) : 1 ≤ daysInMonth year month := by
  unfold daysInMonth
  split_ifs <;> decide

def next (d : Date) : Date :=
  if inMonth : d.day < daysInMonth d.year d.month then
    ⟨d.year, d.month, d.day + 1, d.exists_day.1, d.exists_day.2.1, by omega, inMonth⟩
  else if inYear : d.month < 12 then
    ⟨d.year, d.month + 1, 1, by omega, by omega, le_rfl, one_le_daysInMonth d.year (d.month + 1)⟩
  else ⟨d.year + 1, 1, 1, le_rfl, by decide, le_rfl, one_le_daysInMonth (d.year + 1) 1⟩

theorem dayNumber_unixEpoch : (⟨1970, 1, 1, by decide⟩ : Date).dayNumber = 0 := by
  decide

theorem dayNumber_next (d : Date) : d.next.dayNumber = d.dayNumber + 1 := by
  obtain ⟨year, month, day, month_pos, month_le, day_pos, day_le⟩ := d
  unfold next
  split
  next inMonth =>
    simp only [dayNumber, dayOfMarchYear]
    push_cast
    omega
  next last =>
    have day_eq : day = daysInMonth year month := le_antisymm day_le (not_lt.mp last)
    subst day_eq
    split
    next inYear =>
      have before : month < 12 := inYear
      by_cases february : month = 2
      · -- the day after February is the first of the next March year
        subst february
        have years := daysBeforeMarchYear_eq_add year
        simp only [dayNumber, dayOfMarchYear, daysInMonth]
        split at years <;> simp [*] <;> omega
      · have months : month = 1 ∨ month = 3 ∨ month = 4 ∨ month = 5 ∨ month = 6 ∨ month = 7 ∨
            month = 8 ∨ month = 9 ∨ month = 10 ∨ month = 11 := by omega
        rcases months with rfl | rfl | rfl | rfl | rfl | rfl | rfl | rfl | rfl | rfl <;>
          simp [dayNumber, dayOfMarchYear, daysInMonth] <;> omega
    next december =>
      obtain rfl : month = 12 := le_antisymm month_le (not_lt.mp december)
      simp [dayNumber, dayOfMarchYear, daysInMonth]
      omega

/-! The supported years as a range of days -/

def yearStart (year : Int) : Int :=
  daysBeforeMarchYear (year - 1) + 306 - epochShift

theorem le_daysInMonth {year : Int} {month day : Nat} (exists_day : IsDate year month day) :
    day ≤ 31 ∧ (month = 2 → day ≤ 29) := by
  obtain ⟨-, -, -, day_le⟩ := exists_day
  unfold daysInMonth at day_le
  split_ifs at day_le <;> omega

/-- January and February lie in the March year that began in the year before. -/
theorem dayNumber_bounds (d : Date) :
    yearStart d.year ≤ d.dayNumber ∧ d.dayNumber < yearStart (d.year + 1) := by
  obtain ⟨year, month, day, exists_day⟩ := d
  obtain ⟨day_le, february⟩ := le_daysInMonth exists_day
  obtain ⟨month_pos, month_le, day_pos, -⟩ := exists_day
  have longer : daysBeforeMarchYear (year - 1) + 365 ≤ daysBeforeMarchYear year := by
    rw [daysBeforeMarchYear_eq_add year]
    split <;> omega
  unfold yearStart dayNumber dayOfMarchYear
  simp only [add_sub_cancel_right]
  by_cases early : month ≤ 2
  · simp only [early, if_true]
    omega
  · simp only [early, if_false]
    omega

theorem yearStart_mono {year later : Int} (le : year ≤ later) :
    yearStart year ≤ yearStart later := by
  unfold yearStart daysBeforeMarchYear
  omega

theorem isSupported_iff_dayNumber (d : Date) :
    d.IsSupported ↔ -96465292 ≤ d.dayNumber ∧ d.dayNumber ≤ 95026236 := by
  obtain ⟨low, high⟩ := d.dayNumber_bounds
  have first : yearStart (-262143) = -96465292 := by decide
  have last : yearStart (262142 + 1) = 95026236 + 1 := by decide
  unfold IsSupported
  constructor
  · rintro ⟨least, most⟩
    have start := yearStart_mono least
    have finish := yearStart_mono (Int.add_le_add_right most 1)
    omega
  · rintro ⟨least, most⟩
    constructor
    · by_contra early
      have start := yearStart_mono (show d.year + 1 ≤ -262143 by omega)
      omega
    · by_contra late
      have finish := yearStart_mono (show 262142 + 1 ≤ d.year by omega)
      omega

end Date

/-! Seconds -/

namespace DateTime

theorem epochSeconds_ofEpochSeconds (seconds : Int) :
    (ofEpochSeconds seconds).epochSeconds = seconds := by
  have minutes : (ofEpochSeconds seconds).minuteNumber = seconds / 60 :=
    minuteNumber_ofMinuteNumber _ _
  have second : (ofEpochSeconds seconds).clock.second = (seconds % 60).toNat := rfl
  unfold epochSeconds
  rw [minutes, second]
  omega

theorem ofEpochSeconds_epochSeconds {t : DateTime} (no_leap : t.clock.second < 60)
    (no_fraction : t.clock.nanosecond = 0) : ofEpochSeconds t.epochSeconds = t := by
  have minutes : t.epochSeconds / 60 = t.minuteNumber := by
    unfold epochSeconds
    omega
  have second : (t.epochSeconds % 60).toNat = t.clock.second := by
    unfold epochSeconds
    omega
  unfold ofEpochSeconds
  simp only [minutes, second]
  have same := t.ofMinuteNumber_minuteNumber
  simp only [no_fraction] at same
  exact same

/-- Holds of the seconds from 1970 that lie in the supported years. -/
def InEpochRange (seconds : Int) : Prop :=
  -8334601228800 ≤ seconds ∧ seconds ≤ 8210266876799

instance (seconds : Int) : Decidable (InEpochRange seconds) :=
  inferInstanceAs (Decidable (_ ∧ _))

theorem isSupported_ofEpochSeconds_iff {seconds : Int} :
    (ofEpochSeconds seconds).IsSupported ↔ InEpochRange seconds := by
  have day : (ofEpochSeconds seconds).date.dayNumber = seconds / 60 / 1440 :=
    Date.dayNumber_ofDayNumber _
  unfold IsSupported InEpochRange
  rw [Date.isSupported_iff_dayNumber, day]
  omega

end DateTime

end Calendar

open Calendar (DateTime ZonedDateTime)

/-! Counts -/

theorem epochSeconds_neg (count : Int) : epochSeconds (-count) = -epochSeconds count := by
  unfold epochSeconds
  rw [Int.natAbs_neg, Int.neg_tdiv]
  split <;> rfl

theorem inEpochRange_of_small {count : Int} (small : count.natAbs ≤ epochSecondsBound) :
    DateTime.InEpochRange (epochSeconds count) := by
  unfold epochSeconds DateTime.InEpochRange
  rw [if_pos small]
  unfold epochSecondsBound at small
  omega

theorem epochSeconds_milliseconds {count part : Int} (small : count.natAbs ≤ epochSecondsBound)
    (great : epochSecondsBound < (1000 * count).natAbs) (within : part.natAbs ≤ 999)
    (after : 0 < count → 0 ≤ part) (before : count < 0 → part ≤ 0) :
    epochSeconds (1000 * count + part) = epochSeconds count := by
  have millis : ¬(1000 * count + part).natAbs ≤ epochSecondsBound := by omega
  unfold epochSeconds
  rw [if_pos small, if_neg millis]
  rcases lt_trichotomy count 0 with negative | rfl | positive
  · -- division is towards zero, so this is the case after 1970 in the mirror
    have part_le := before negative
    rw [← neg_inj, ← Int.neg_tdiv, Int.tdiv_eq_ediv_of_nonneg (by omega)]
    omega
  · omega
  · have part_nonneg := after positive
    rw [Int.tdiv_eq_ediv_of_nonneg (by omega)]
    omega

theorem holds_i64_iff {count : Int} :
    IntegerType.i64.Holds count ↔ -9223372036854775808 ≤ count ∧ count ≤ 9223372036854775807 :=
  Iff.rfl

theorem isExact_of_holds {count : Int} (holds : IntegerType.i64.Holds count) :
    Json.IsExact count := by
  rw [holds_i64_iff] at holds
  unfold Json.IsExact
  omega

namespace Located

variable {here : Located} {count : Int}

theorem outcome_epochCount (holds : IntegerType.i64.Holds count) (nonzero : count ≠ 0)
    (denotes : Denotes here count) : here.epochCount.outcome = .ok (some count) := by
  have read := outcome_toInteger_eq_ok_iff.mpr ⟨holds, denotes⟩
  unfold epochCount
  simp only [read, if_neg nonzero]

/-- A nonzero count is read as the instant of its seconds in whatever way times are given, or is
refused with its digits. -/
theorem outcome_toTime_of_count {α : Type} (target : ScalarType) (ofEpoch : DateTime → α)
    (ofText? : List Char → Option α) (holds : IntegerType.i64.Holds count) (nonzero : count ≠ 0)
    (denotes : Denotes here count) :
    (here.toTime target ofEpoch ofText?).outcome =
      if DateTime.InEpochRange (epochSeconds count) then
        .ok (ofEpoch (DateTime.ofEpochSeconds (epochSeconds count)))
      else .error (.outOfRange target (String.ofList (Text.signedDigits count))) := by
  have counted := outcome_epochCount holds nonzero denotes
  simp only [toTime, Logged.outcome_bind, counted, Except.bind, timeOfEpoch,
    DateTime.isSupported_ofEpochSeconds_iff]
  by_cases inRange : DateTime.InEpochRange (epochSeconds count)
  · simp only [if_pos inRange]
    rfl
  · simp only [if_neg inRange]
    rfl

theorem outcome_toDateTime_of_count (holds : IntegerType.i64.Holds count) (nonzero : count ≠ 0)
    (denotes : Denotes here count) :
    here.toDateTime.outcome =
      if DateTime.InEpochRange (epochSeconds count) then
        .ok (DateTime.ofEpochSeconds (epochSeconds count))
      else .error (.outOfRange .dateTime (String.ofList (Text.signedDigits count))) :=
  outcome_toTime_of_count .dateTime id _ holds nonzero denotes

theorem outcome_toZonedDateTime_of_count (holds : IntegerType.i64.Holds count)
    (nonzero : count ≠ 0) (denotes : Denotes here count) :
    here.toZonedDateTime.outcome =
      if DateTime.InEpochRange (epochSeconds count) then
        .ok (ZonedDateTime.ofUtc (DateTime.ofEpochSeconds (epochSeconds count)))
      else .error (.outOfRange .zonedDateTime (String.ofList (Text.signedDigits count))) :=
  outcome_toTime_of_count .zonedDateTime ZonedDateTime.ofUtc _ holds nonzero denotes

theorem times_of_outcome {time : DateTime} (holds : IntegerType.i64.Holds count)
    (nonzero : count ≠ 0) (denotes : Denotes here count)
    (read : here.toDateTime.outcome = .ok time) :
    time = DateTime.ofEpochSeconds (epochSeconds count) ∧
      here.toZonedDateTime.outcome = .ok (ZonedDateTime.ofUtc time) := by
  have zoned := outcome_toZonedDateTime_of_count holds nonzero denotes
  rw [outcome_toDateTime_of_count holds nonzero denotes] at read
  split at read
  next inRange =>
    obtain rfl := Except.ok.inj read
    exact ⟨rfl, zoned.trans (if_pos inRange)⟩
  next => cases read

theorem holds_neg {time : DateTime} (holds : IntegerType.i64.Holds count) (nonzero : count ≠ 0)
    (denotes : Denotes here count) (read : here.toDateTime.outcome = .ok time) :
    IntegerType.i64.Holds (-count) := by
  rw [outcome_toDateTime_of_count holds nonzero denotes] at read
  have inside : count ≠ -9223372036854775808 := by
    rintro rfl
    rw [if_neg (by decide)] at read
    cases read
  rw [holds_i64_iff] at holds ⊢
  omega

theorem exists_time_of_inEpochRange (holds : IntegerType.i64.Holds count) (nonzero : count ≠ 0)
    (denotes : Denotes here count) (inRange : DateTime.InEpochRange (epochSeconds count)) :
    ∃ time : DateTime, here.toDateTime.outcome = .ok time ∧
      here.toZonedDateTime.outcome = .ok ⟨time, .utc⟩ ∧
      time.epochSeconds = epochSeconds count ∧ time.clock.second < 60 ∧
      time.clock.nanosecond = 0 ∧
      ∀ other : DateTime, other.epochSeconds = epochSeconds count → other.clock.second < 60 →
        other.clock.nanosecond = 0 → other = time := by
  have plain := outcome_toDateTime_of_count holds nonzero denotes
  have zoned := outcome_toZonedDateTime_of_count holds nonzero denotes
  rw [if_pos inRange] at plain zoned
  have second : (DateTime.ofEpochSeconds (epochSeconds count)).clock.second < 60 :=
    show (epochSeconds count % 60).toNat < 60 by omega
  refine ⟨_, plain, zoned, DateTime.epochSeconds_ofEpochSeconds _, second, rfl, ?_⟩
  intro other same no_leap no_fraction
  rw [← same, DateTime.ofEpochSeconds_epochSeconds no_leap no_fraction]

theorem outcome_of_milliseconds {there : Located} {part : Int} (nonzero : count ≠ 0)
    (denotes : Denotes here count) (millis : Denotes there (1000 * count + part))
    (small : count.natAbs ≤ epochSecondsBound)
    (great : epochSecondsBound < (1000 * count).natAbs) (within : part.natAbs ≤ 999)
    (after : 0 < count → 0 ≤ part) (before : count < 0 → part ≤ 0) :
    there.toDateTime.outcome = here.toDateTime.outcome ∧
      there.toZonedDateTime.outcome = here.toZonedDateTime.outcome := by
  have seconds := epochSeconds_milliseconds small great within after before
  have inRange := inEpochRange_of_small small
  unfold epochSecondsBound at small great
  have holds : IntegerType.i64.Holds count := by
    rw [holds_i64_iff]
    omega
  have millisHolds : IntegerType.i64.Holds (1000 * count + part) := by
    rw [holds_i64_iff]
    omega
  have millisNonzero : 1000 * count + part ≠ 0 := by omega
  rw [outcome_toDateTime_of_count millisHolds millisNonzero millis,
    outcome_toZonedDateTime_of_count millisHolds millisNonzero millis,
    outcome_toDateTime_of_count holds nonzero denotes,
    outcome_toZonedDateTime_of_count holds nonzero denotes, seconds, if_pos inRange,
    if_pos inRange, if_pos inRange, if_pos inRange]
  exact ⟨rfl, rfl⟩

/-- A nonzero count of 64 bits, as a number or as its digits, is read as the instant of its seconds,
which are thousandths of it if it is too great, or is refused with its digits if that instant is not
in the supported years.  So no count of seconds is refused, the least count is, the opposite count
is the mirrored instant, and the milliseconds of a second are the second. -/
theorem toTime_epoch_exact (count : Int) (holds : IntegerType.i64.Holds count)
    (nonzero : count ≠ 0) :
    Denotes (.found (.number (.integer count (isExact_of_holds holds)))) count ∧
      Denotes (.found (.string (String.ofList (Text.signedDigits count)))) count ∧
      ∀ here seconds, Denotes here count →
        seconds = (if |count| ≤ 253402300799 then count else count.tdiv 1000) →
        (-8334601228800 ≤ seconds ∧ seconds ≤ 8210266876799 →
          ∃ time : DateTime, here.toDateTime.outcome = .ok time ∧
            here.toZonedDateTime.outcome = .ok ⟨time, .utc⟩ ∧
            time.epochSeconds = seconds ∧ time.clock.second < 60 ∧ time.clock.nanosecond = 0 ∧
            ∀ other : DateTime, other.epochSeconds = seconds → other.clock.second < 60 →
              other.clock.nanosecond = 0 → other = time) ∧
        (¬(-8334601228800 ≤ seconds ∧ seconds ≤ 8210266876799) →
          here.toDateTime.outcome =
              .error (.outOfRange .dateTime (String.ofList (Text.signedDigits count))) ∧
            here.toZonedDateTime.outcome =
              .error (.outOfRange .zonedDateTime (String.ofList (Text.signedDigits count)))) ∧
        (|count| ≤ 253402300799 → ∃ time : DateTime, here.toDateTime.outcome = .ok time ∧
          here.toZonedDateTime.outcome = .ok ⟨time, .utc⟩) ∧
        (count = -2 ^ 63 →
          here.toDateTime.outcome = .error (.outOfRange .dateTime "-9223372036854775808") ∧
            here.toZonedDateTime.outcome =
              .error (.outOfRange .zonedDateTime "-9223372036854775808")) ∧
        (∀ there time mirrored, Denotes there (-count) → here.toDateTime.outcome = .ok time →
          there.toDateTime.outcome = .ok mirrored →
            there.toZonedDateTime.outcome = .ok ⟨mirrored, .utc⟩ ∧
              mirrored.epochSeconds = -time.epochSeconds) ∧
        ∀ there part, Denotes there (1000 * count + part) → |count| ≤ 253402300799 →
          253402300799 < |1000 * count| → |part| ≤ 999 → (0 < count → 0 ≤ part) →
          (count < 0 → part ≤ 0) →
            there.toDateTime.outcome = here.toDateTime.outcome ∧
              there.toZonedDateTime.outcome = here.toZonedDateTime.outcome := by
  refine ⟨.number rfl, .digits count, fun here seconds denotes seconds_eq => ?_⟩
  have same : seconds = epochSeconds count := by
    rw [seconds_eq, Int.abs_eq_natAbs]
    exact if_congr Int.ofNat_le rfl rfl
  subst same
  clear seconds_eq
  have plain := outcome_toDateTime_of_count holds nonzero denotes
  have zoned := outcome_toZonedDateTime_of_count holds nonzero denotes
  refine ⟨exists_time_of_inEpochRange holds nonzero denotes, fun beyond => ?_, fun small => ?_, ?_,
    ?_, ?_⟩
  · have unsupported : ¬DateTime.InEpochRange (epochSeconds count) := beyond
    rw [if_neg unsupported] at plain zoned
    exact ⟨plain, zoned⟩
  · rw [Int.abs_eq_natAbs] at small
    have inRange := inEpochRange_of_small (Int.ofNat_le.mp small)
    exact ⟨_, plain.trans (if_pos inRange), zoned.trans (if_pos inRange)⟩
  · rintro rfl
    rw [plain, zoned, if_neg (by decide), if_neg (by decide)]
    exact ⟨rfl, rfl⟩
  · intro there time mirrored opposite read readThere
    obtain ⟨time_eq, -⟩ := times_of_outcome holds nonzero denotes read
    obtain ⟨mirrored_eq, zonedThere⟩ := times_of_outcome (holds_neg holds nonzero denotes read)
      (neg_ne_zero.mpr nonzero) opposite readThere
    refine ⟨zonedThere, ?_⟩
    rw [mirrored_eq, time_eq, DateTime.epochSeconds_ofEpochSeconds,
      DateTime.epochSeconds_ofEpochSeconds, epochSeconds_neg]
  · intro there part millis small great within
    rw [Int.abs_eq_natAbs] at small great within
    exact outcome_of_milliseconds nonzero denotes millis (Int.ofNat_le.mp small)
      (Int.ofNat_lt.mp great) (Int.ofNat_le.mp within)

theorem toTime_epoch_exact_least :
    (Located.found (.string "-9223372036854775808")).toDateTime.outcome =
        .error (.outOfRange .dateTime "-9223372036854775808") ∧
      (Located.found (.string "-9223372036854775808")).toZonedDateTime.outcome =
        .error (.outOfRange .zonedDateTime "-9223372036854775808") := by
  obtain ⟨-, digits, reads⟩ := toTime_epoch_exact (-2 ^ 63) (by decide) (by decide)
  obtain ⟨-, -, -, least, -⟩ := reads _ _ digits rfl
  exact least rfl

end Located

end DotPath
