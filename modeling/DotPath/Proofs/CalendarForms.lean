import DotPath.Proofs.DecimalDigits
import DotPath.Proofs.WrittenTimes

/-!
Dates and times in every form of the calendar.  A form says how much of a date and time is written
and what stands between date and time of day; what it leaves out is read as zero.  The forms that
are tried before the one written do not read it, and the hyphens of a date keep it from being an
epoch count.
-/

set_option autoImplicit false
set_option relaxedAutoImplicit false

namespace DotPath

namespace Calendar

/-! Forms -/

inductive Separator where
  | letter
  | space
  deriving DecidableEq

namespace Separator

def char : Separator → Char
  | .letter => 'T'
  | .space => ' '

def part : Separator → Part
  | .letter => .literal 'T'
  | .space => .blank

end Separator

def Clock.toMinute (c : Clock) : Clock :=
  ⟨c.hour, c.minute, 0, 0, c.in_bounds.1, c.in_bounds.2.1, by decide, by decide⟩

def Clock.toPlaces (places : Nat) (c : Clock) : Clock :=
  ⟨c.hour, c.minute, c.second, keptFraction places c.nanosecond, c.in_bounds.1, c.in_bounds.2.1,
    c.in_bounds.2.2.1, keptFraction_lt c.in_bounds.2.2.2 places⟩

/-- The forms of a date and time: the date alone, or with a time of day up to the minute, up to the
second, or up to nine digits of a fraction. -/
inductive Form where
  | day
  | minute (separator : Separator)
  | second (separator : Separator) (places : Fin 10)

namespace Form

def text : Form → DateTime → List Char
  | .day, t => t.date.text
  | .minute separator, t => t.date.text ++ separator.char :: t.clock.minutesText
  | .second separator places, t =>
      t.date.text ++ separator.char :: (t.clock.minutesText ++ t.clock.secondsText places)

/-- What is left of a date and time in a form: the parts that are not written are zero. -/
def kept : Form → DateTime → DateTime
  | .day, t => ⟨t.date, .midnight⟩
  | .minute _, t => ⟨t.date, t.clock.toMinute⟩
  | .second _ places, t => ⟨t.date, t.clock.toPlaces places⟩

def separator? : Form → Option Separator
  | .day => none
  | .minute separator | .second separator _ => some separator

def parts : Form → List Part
  | .day => Part.date
  | .minute separator => Part.date ++ (separator.part :: Part.clock)
  | .second separator _ => Part.date ++ (separator.part :: Part.clock ++ Part.seconds)

end Form

/-! Reading a form -/

theorem Clock.forall_not_isBlank_secondsText (places : Nat) (c : Clock) :
    ∀ d ∈ c.secondsText places, Text.isBlank d = false := by
  have fraction : ∀ d ∈ fractionDigits places c.nanosecond, Text.isBlank d = false := by
    unfold fractionDigits
    split
    · exact List.forall_mem_nil _
    · exact List.forall_mem_cons.mpr ⟨by decide, Text.forall_not_isBlank_paddedDigits places _⟩
  exact List.forall_mem_cons.mpr ⟨by decide,
    List.forall_mem_append.mpr ⟨Text.forall_not_isBlank_paddedDigits 2 c.second, fraction⟩⟩

namespace Part

theorem readAll_separator (separator : Separator) (c : Clock) (parts : List Part) (fields : Fields)
    (rest : List Char) :
    readAll (separator.part :: clock ++ parts) fields
        (separator.char :: (c.minutesText ++ rest)) =
      readAll parts { fields with hour := c.hour, minute := c.minute } rest := by
  rw [List.cons_append, ← readAll_clock c parts fields rest]
  cases separator with
  | letter => exact readAll_literal 'T' (clock ++ parts) fields (c.minutesText ++ rest)
  | space =>
    apply readAll_of_read
    have blank : ∀ d ∈ [' '], Text.isBlank d = true :=
      List.forall_mem_singleton.mpr (by decide)
    have digits : Text.trimStart (c.minutesText ++ rest) = c.minutesText ++ rest := by
      rw [Clock.minutesText, List.append_assoc]
      exact Text.trimStart_paddedDigits 2 c.hour _
    show some (fields, Text.trimStart ([' '] ++ (c.minutesText ++ rest))) = _
    rw [Text.trimStart_append_of_blank blank, digits]

theorem readAll_other_separator {separator other : Separator} (different : other ≠ separator)
    (parts : List Part) (fields : Fields) (rest : List Char) :
    readAll (separator.part :: clock ++ parts) fields (other.char :: rest) = none := by
  cases separator with
  | letter =>
    cases other with
    | letter => exact absurd rfl different
    | space => rfl
  | space =>
    cases other with
    | space => exact absurd rfl different
    | letter =>
      have letter : Text.trimStart ('T' :: rest) = 'T' :: rest :=
        trimStart_of_not_blank (by decide) rest
      have blank : Part.blank.read fields ('T' :: rest) = some (fields, 'T' :: rest) := by
        rw [read, letter]
      have hour : Part.hour.read fields ('T' :: rest) = none := by
        rw [read, read.numeral, letter]
        rfl
      exact (readAll_of_read blank).trans (readAll_of_none hour)

theorem readAll_separator_nil (separator : Separator) (parts : List Part) (fields : Fields) :
    readAll (separator.part :: clock ++ parts) fields [] = none := by
  cases separator with
  | letter => rfl
  | space => rfl

end Part

section Forms

variable {t : DateTime}

theorem dateTime?_eq_some {date : Date} (supported : date.IsSupported) (clock : Clock) :
    Fields.dateTime? ⟨date.year, date.month, date.day, clock.hour, clock.minute, clock.second,
      clock.nanosecond⟩ = some ⟨date, clock⟩ := by
  have civil : Date.ofCivil? date.year date.month date.day = some date := dif_pos date.exists_day
  have time : Clock.ofParts? clock.hour clock.minute clock.second clock.nanosecond = some clock :=
    dif_pos clock.in_bounds
  simp only [Fields.dateTime?, civil, time]
  exact if_pos supported

theorem readForm?_date (d : Date) (parts : List Part) (rest : List Char) :
    readForm? (d.text ++ rest) (Part.date ++ parts) =
      (Part.readAll parts { year := d.year, month := d.month, day := d.day } rest).bind
        Fields.dateTime? := by
  rw [readForm?, Part.readAll_date]

theorem readForm?_text (form : Form) (supported : t.IsSupported) :
    readForm? (form.text t) form.parts = some (form.kept t) := by
  cases form with
  | day =>
    have read := readForm?_date t.date [] []
    rw [List.append_nil, List.append_nil] at read
    exact read.trans (dateTime?_eq_some supported .midnight)
  | minute separator =>
    have clock := Part.readAll_separator separator t.clock []
      { year := t.date.year, month := t.date.month, day := t.date.day } []
    rw [List.append_nil, List.append_nil] at clock
    rw [Form.text, Form.parts, readForm?_date, clock]
    exact dateTime?_eq_some supported t.clock.toMinute
  | second separator places =>
    rw [Form.text, Form.parts, readForm?_date, Part.readAll_separator,
      Part.readAll_seconds (Nat.le_of_lt_succ places.isLt)]
    exact dateTime?_eq_some supported (t.clock.toPlaces places)

/-- A form with a time of day does not read a date alone, nor one with another separator. -/
theorem readForm?_of_separator_ne {written : Form} {separator : Separator}
    (different : written.separator? ≠ some separator) (parts : List Part) :
    readForm? (written.text t) (Part.date ++ (separator.part :: Part.clock ++ parts)) = none := by
  cases written with
  | day =>
    have read := readForm?_date t.date (separator.part :: Part.clock ++ parts) []
    rw [List.append_nil, Part.readAll_separator_nil] at read
    exact read
  | minute other | second other places =>
    have ne : other ≠ separator := fun same => different (congrArg some same)
    rw [Form.text, readForm?_date, Part.readAll_other_separator ne]
    rfl

theorem readForm?_minute_of_seconds (separator : Separator) :
    readForm? ((Form.minute separator).text t)
      (Part.date ++ (separator.part :: Part.clock ++ Part.seconds)) = none := by
  have clock := Part.readAll_separator separator t.clock Part.seconds
    { year := t.date.year, month := t.date.month, day := t.date.day } []
  rw [List.append_nil] at clock
  rw [Form.text, readForm?_date, clock]
  rfl

theorem plainForms_eq_map :
    plainForms = [Form.second .letter 0, .second .space 0, .minute .letter, .minute .space,
      .day].map Form.parts :=
  rfl

/-- A date and time in a form is read in that form, as no form before it reads it. -/
theorem readPlain?_text (form : Form) (supported : t.IsSupported) :
    readPlain? (form.text t) = some (form.kept t) := by
  have itself := readForm?_text form supported
  have second (separator : Separator) (different : form.separator? ≠ some separator) :
      readForm? (form.text t) (Form.second separator 0).parts = none :=
    readForm?_of_separator_ne different Part.seconds
  have minute (separator : Separator) (different : form.separator? ≠ some separator) :
      readForm? (form.text t) (Form.minute separator).parts = none :=
    readForm?_of_separator_ne different []
  rw [readPlain?, plainForms_eq_map, List.findSome?_map]
  simp only [List.findSome?_cons, Function.comp_apply]
  cases form with
  | day =>
    rw [second .letter nofun, second .space nofun, minute .letter nofun, minute .space nofun,
      itself]
  | minute separator =>
    have seconds : readForm? ((Form.minute separator).text t) (Form.second separator 0).parts =
        none := readForm?_minute_of_seconds separator
    cases separator with
    | letter => rw [seconds, second .space (by decide), itself]
    | space => rw [second .letter (by decide), seconds, minute .letter (by decide), itself]
  | second separator places =>
    have read : readForm? ((Form.second separator places).text t)
        (Form.second separator 0).parts = some ((Form.second separator places).kept t) := itself
    cases separator with
    | letter => rw [read]
    | space => rw [second .letter (fun same => by cases same), read]

end Forms

/-! Forms with an offset -/

/-- What stands behind a time of day to give its offset: the letter for universal time, or a sign
with hours and minutes. -/
inductive Zone where
  | universal
  | signed (west : Bool) (hours : Fin 24) (minutes : Fin 60)

namespace Zone

def text : Zone → List Char
  | .universal => ['Z']
  | .signed west hours minutes =>
      (if west then '-' else '+') ::
        (Text.paddedDigits 2 hours.val ++ ':' :: Text.paddedDigits 2 minutes.val)

def ahead : Zone → Int
  | .universal => 0
  | .signed west hours minutes =>
      if west then -(60 * hours.val + minutes.val : Nat) else (60 * hours.val + minutes.val : Nat)

def offset (zone : Zone) : Offset :=
  ⟨zone.ahead, by
    cases zone with
    | universal => decide
    | signed west hours minutes =>
      have hours_lt := hours.isLt
      have minutes_lt := minutes.isLt
      unfold ahead
      split <;> omega⟩

theorem forall_not_isBlank_text (zone : Zone) : ∀ c ∈ zone.text, Text.isBlank c = false := by
  cases zone with
  | universal => exact List.forall_mem_singleton.mpr (by decide)
  | signed west hours minutes =>
    have sign : Text.isBlank (if west then '-' else '+') = false := by cases west <;> decide
    refine List.forall_mem_cons.mpr ⟨sign, List.forall_mem_append.mpr ⟨?_, ?_⟩⟩
    · exact Text.forall_not_isBlank_paddedDigits 2 hours.val
    · exact List.forall_mem_cons.mpr
        ⟨by decide, Text.forall_not_isBlank_paddedDigits 2 minutes.val⟩

theorem text_ne_nil (zone : Zone) : zone.text ≠ [] := by
  cases zone with
  | universal => exact List.cons_ne_nil _ _
  | signed west hours minutes => exact List.cons_ne_nil _ _

theorem ends_text (zone : Zone) : ∀ c ∈ zone.text.head?, c.isDigit = false ∧ c ≠ '.' := by
  cases zone with
  | universal => simp [text]
  | signed west hours minutes => cases west <;> simp [text]

end Zone

theorem isSupported_of_fourDigits {t : DateTime} (first : 0 ≤ t.date.year)
    (last : t.date.year ≤ 9999) (offset : Offset) : (⟨t, offset⟩ : ZonedDateTime).IsSupported := by
  obtain ⟨start, finish⟩ := t.date.dayNumber_bounds
  have first_day : Date.yearStart 0 = -719528 := by decide
  have last_day : Date.yearStart (9999 + 1) = 2932897 := by decide
  have start_le := Date.yearStart_mono first
  have le_finish := Date.yearStart_mono (Int.add_le_add_right last 1)
  have universal : (⟨t, offset⟩ : ZonedDateTime).utc.date.dayNumber =
      (t.minuteNumber + -offset.minutes) / 1440 := Date.dayNumber_ofDayNumber _
  have hour := t.clock.in_bounds.1
  have minute := t.clock.in_bounds.2.1
  have within := offset.lt_day
  refine ⟨(Date.isSupported_iff_dayNumber _).mpr ?_, (Date.isSupported_iff_dayNumber _).mpr ?_⟩
  · show -96465292 ≤ t.date.dayNumber ∧ t.date.dayNumber ≤ 95026236
    omega
  · rw [universal]
    unfold DateTime.minuteNumber
    omega

namespace Internet

theorem offsetMinutes?_text (hours : Fin 24) (minutes : Fin 60) :
    offsetMinutes? (literal? ':')
        (Text.paddedDigits 2 hours.val ++ ':' :: Text.paddedDigits 2 minutes.val) =
      some (60 * hours.val + minutes.val, []) := by
  have hour (rest : List Char) : number? 2 2 (Text.paddedDigits 2 hours.val ++ rest) =
      some (hours.val, rest) :=
    number?_paddedDigits (by decide) le_rfl (hours.isLt.trans (by decide)) rest
  have minute : number? 2 2 (Text.paddedDigits 2 minutes.val ++ []) = some (minutes.val, []) :=
    number?_paddedDigits (by decide) le_rfl (minutes.isLt.trans (by decide)) []
  rw [List.append_nil] at minute
  have colon (rest : List Char) : literal? ':' (':' :: rest) = some rest :=
    literal?_eq_some_iff.mpr rfl
  simp only [offsetMinutes?, hour, colon, minute, Option.bind_eq_bind, Option.bind_some,
    if_neg (not_le.mpr minutes.isLt)]

theorem offset?_text (zone : Zone) : offset? zone.text = some (zone.ahead, []) := by
  cases zone with
  | universal => rfl
  | signed west hours minutes =>
    cases west with
    | true =>
      show (offsetMinutes? (literal? ':') _).map _ = _
      rw [offsetMinutes?_text]
      rfl
    | false =>
      show (offsetMinutes? (literal? ':') _).map _ = _
      rw [offsetMinutes?_text]
      rfl

section FourDigits

variable {t : DateTime} (first : 0 ≤ t.date.year) (last : t.date.year ≤ 9999)

include first last

theorem fields?_text (separator : Separator) (places : Fin 10) {rest : List Char}
    (ends : ∀ c ∈ rest.head?, c.isDigit = false ∧ c ≠ '.') :
    fields? ((Form.second separator places).text t ++ rest) =
      some (⟨t.date.year, t.date.month, t.date.day, t.clock.hour, t.clock.minute, t.clock.second,
        keptFraction places t.clock.nanosecond⟩, rest) := by
  have shape : (Form.second separator places).text t ++ rest =
      Text.paddedDigits 4 t.date.year.natAbs ++ '-' :: (Text.paddedDigits 2 t.date.month ++ '-' ::
        (Text.paddedDigits 2 t.date.day ++ separator.char :: (Text.paddedDigits 2 t.clock.hour ++
          ':' :: (Text.paddedDigits 2 t.clock.minute ++ ':' :: (Text.paddedDigits 2 t.clock.second
            ++ (fractionDigits places t.clock.nanosecond ++ rest)))))) := by
    simp [Form.text, Date.text, yearText, not_lt.mpr first, not_lt.mpr last, Clock.minutesText,
      Clock.secondsText]
  have year (behind : List Char) :
      number? 4 4 (Text.paddedDigits 4 t.date.year.natAbs ++ behind) =
        some (t.date.year.natAbs, behind) :=
    number?_paddedDigits (by decide) le_rfl (by omega) behind
  have pair {n : Nat} (fits : n < 10 ^ 2) (behind : List Char) :
      number? 2 2 (Text.paddedDigits 2 n ++ behind) = some (n, behind) :=
    number?_paddedDigits (by decide) le_rfl fits behind
  have mark (c : Char) (behind : List Char) : literal? c (c :: behind) = some behind :=
    literal?_eq_some_iff.mpr rfl
  have between (behind : List Char) : separator? (separator.char :: behind) = some behind := by
    cases separator <;> rfl
  have fraction := fraction?_fractionDigits (Nat.le_of_lt_succ places.isLt)
    t.clock.in_bounds.2.2.2 ends
  rw [shape]
  simp only [fields?, year, mark, pair t.date.month_lt, pair t.date.day_lt, between,
    pair t.clock.hour_lt, pair t.clock.minute_lt, pair t.clock.second_lt, fraction,
    Option.bind_eq_bind, Option.bind_some, Option.pure_def, Int.natAbs_of_nonneg first]

theorem read?_text (separator : Separator) (places : Fin 10) (zone : Zone) :
    read? ((Form.second separator places).text t ++ zone.text) =
      some ⟨(Form.second separator places).kept t, zone.offset⟩ := by
  have fields := fields?_text first last separator places zone.ends_text
  have supported : (⟨⟨t.date, t.clock.toPlaces places⟩, zone.offset⟩ : ZonedDateTime).IsSupported :=
    isSupported_of_fourDigits first last zone.offset
  have time : Fields.dateTime? ⟨t.date.year, t.date.month, t.date.day, t.clock.hour,
      t.clock.minute, t.clock.second, keptFraction places t.clock.nanosecond⟩ =
        some ⟨t.date, t.clock.toPlaces places⟩ :=
    dateTime?_eq_some supported.1 (t.clock.toPlaces places)
  have offset : Offset.ofMinutes? zone.ahead = some zone.offset := dif_pos zone.offset.lt_day
  simp only [read?, fields, offset?_text, time, offset, Option.bind_eq_bind, Option.bind_some,
    List.isEmpty_nil, if_true, if_pos supported]
  rfl

end FourDigits

end Internet

end Calendar

open Calendar (DateTime Form Separator ZonedDateTime Zone)

/-! Nodes -/

theorem Text.trim_of_ends {front back : List Char} (front_nonempty : front ≠ [])
    (back_nonempty : back ≠ []) (front_bare : ∀ c ∈ front, isBlank c = false)
    (back_bare : ∀ c ∈ back, isBlank c = false) (middle : List Char) :
    trim (front ++ middle ++ back) = front ++ middle ++ back := by
  have start : trimStart (front ++ middle ++ back) = front ++ middle ++ back := by
    obtain ⟨c, more, rfl⟩ := List.exists_cons_of_ne_nil front_nonempty
    exact Calendar.trimStart_of_not_blank (front_bare c List.mem_cons_self) _
  have finish : (front ++ middle ++ back).reverse.dropWhile isBlank =
      (front ++ middle ++ back).reverse := by
    obtain ⟨before, c, rfl⟩ := (List.eq_nil_or_concat back).resolve_left back_nonempty
    have bare : isBlank c = false := back_bare c (by simp)
    simp [List.dropWhile_cons_of_neg, bare]
  rw [trim, start, trimEnd, finish, List.reverse_reverse]

theorem SpellsInteger.not_mem_tail {text : List Char} {k : Int} (spells : SpellsInteger text k) :
    '-' ∉ text.tail := by
  have digits {run : List Char} (numeral : Text.isNumeral run = true) : '-' ∉ run := fun member =>
    absurd ((Text.isNumeral_iff.mp numeral).2 '-' member) (by decide)
  cases spells with
  | bare numeral => exact fun member => digits numeral (List.mem_of_mem_tail member)
  | plus numeral => exact digits numeral
  | minus numeral => exact digits numeral

/-- Texts that begin with a year and a hyphen and do not end in a blank. -/
def IsDated (text : List Char) : Prop :=
  ∃ (year : Int) (middle back : List Char),
    text = Calendar.yearText year ++ '-' :: middle ++ back ∧ back ≠ [] ∧
      ∀ c ∈ back, Text.isBlank c = false

namespace IsDated

variable {text : List Char}

theorem trim_eq (dated : IsDated text) : Text.trim text = text := by
  obtain ⟨year, middle, back, rfl, nonempty, bare⟩ := dated
  exact Text.trim_of_ends (Calendar.yearText_ne_nil year) nonempty
    (Calendar.forall_not_isBlank_yearText year) bare ('-' :: middle)

theorem not_spellsInteger (dated : IsDated text) (k : Int) : ¬SpellsInteger text k := by
  obtain ⟨year, middle, back, rfl, -, -⟩ := dated
  obtain ⟨c, more, shape⟩ := List.exists_cons_of_ne_nil (Calendar.yearText_ne_nil year)
  intro spells
  apply spells.not_mem_tail
  simp [shape]

theorem form (form : Form) (t : DateTime) : IsDated (form.text t) := by
  have digits := Text.forall_not_isBlank_paddedDigits 2
  cases form with
  | day =>
    refine ⟨t.date.year, Text.paddedDigits 2 t.date.month ++ ['-'],
      Text.paddedDigits 2 t.date.day, ?_, Text.paddedDigits_ne_nil 2 _, digits _⟩
    simp [Form.text, Calendar.Date.text]
  | minute separator =>
    refine ⟨t.date.year, Text.paddedDigits 2 t.date.month ++ '-' ::
      Text.paddedDigits 2 t.date.day ++ separator.char :: Text.paddedDigits 2 t.clock.hour ++ [':'],
      Text.paddedDigits 2 t.clock.minute, ?_, Text.paddedDigits_ne_nil 2 _, digits _⟩
    simp [Form.text, Calendar.Date.text, Calendar.Clock.minutesText]
  | second separator places =>
    refine ⟨t.date.year, Text.paddedDigits 2 t.date.month ++ '-' ::
      Text.paddedDigits 2 t.date.day ++ separator.char :: t.clock.minutesText,
      t.clock.secondsText places, ?_, List.cons_ne_nil _ _, ?_⟩
    · simp [Form.text, Calendar.Date.text]
    · exact t.clock.forall_not_isBlank_secondsText places

theorem append {back : List Char} (dated : IsDated text) (nonempty : back ≠ [])
    (bare : ∀ c ∈ back, Text.isBlank c = false) : IsDated (text ++ back) := by
  obtain ⟨year, middle, last, rfl, -, -⟩ := dated
  exact ⟨year, middle ++ last, back, by simp, nonempty, bare⟩

end IsDated

namespace Located

variable {text : List Char}

theorem outcome_epochCount_of_not_integer {text : String}
    (malformed : ∀ k, ¬SpellsInteger (Text.trim text.toList) k) :
    (found (.string text)).epochCount.outcome = .ok none := by
  cases integer : ((found (.string text)).toInteger .i64).outcome with
  | ok k =>
    have denotes := (outcome_toInteger_eq_ok_iff.mp integer).2
    cases denotes with
    | text spells => exact absurd spells (malformed k)
  | error failure => simp only [epochCount, integer]

section Texts

variable (dated : IsDated text)

include dated

/-- A text with a date in front is no epoch count, so it is read by forms. -/
theorem outcome_toTime_of_text {α : Type} {target : ScalarType} {ofEpoch : DateTime → α}
    {ofText? : List Char → Option α} {time : α} (read : ofText? text = some time) :
    ((found (.string (String.ofList text))).toTime target ofEpoch ofText?).outcome = .ok time := by
  have uncounted : (found (.string (String.ofList text))).epochCount.outcome = .ok none := by
    apply outcome_epochCount_of_not_integer
    rw [String.toList_ofList, dated.trim_eq]
    exact dated.not_spellsInteger
  simp only [toTime, Logged.outcome_bind, uncounted, Except.bind, String.toList_ofList,
    dated.trim_eq, read]
  rfl

theorem outcome_toTimes_of_plain {time : DateTime}
    (plain : Calendar.readPlain? text = some time) :
    (found (.string (String.ofList text))).toDateTime.outcome = .ok time ∧
      (found (.string (String.ofList text))).toZonedDateTime.outcome = .ok ⟨time, .utc⟩ := by
  have unzoned : readZoned? text = none := by
    rw [Option.eq_none_iff_forall_ne_some]
    intro zoned read
    rw [readPlain?_eq_none_of_zoned read] at plain
    cases plain
  constructor
  · exact outcome_toTime_of_text dated (by rw [plain]; rfl)
  · exact outcome_toTime_of_text dated (by rw [unzoned, plain]; rfl)

theorem outcome_toTimes_of_zoned {zoned : ZonedDateTime} (read : readZoned? text = some zoned) :
    (found (.string (String.ofList text))).toZonedDateTime.outcome = .ok zoned ∧
      (found (.string (String.ofList text))).toDateTime.outcome = .ok zoned.utc := by
  have unplain := readPlain?_eq_none_of_zoned read
  constructor
  · exact outcome_toTime_of_text dated (by rw [read]; rfl)
  · exact outcome_toTime_of_text dated (by rw [unplain, read]; rfl)

end Texts

/-- A date and time with a year of four digits is read in every form that it is written in.  What a
form leaves out is zero.  Without an offset the time is universal; with one the local time is kept
as it is written, and the universal time is that much earlier, at the same second. -/
theorem toTime_of_calendar_form (t : DateTime) (first : 0 ≤ t.date.year)
    (last : t.date.year ≤ 9999) :
    (∀ form : Form,
        (found (.string (String.ofList (form.text t)))).toDateTime.outcome = .ok (form.kept t) ∧
          (found (.string (String.ofList (form.text t)))).toZonedDateTime.outcome =
            .ok ⟨form.kept t, .utc⟩) ∧
      ∀ (separator : Separator) (places : Fin 10) (zone : Zone),
        let form := Form.second separator places
        let here := found (.string (String.ofList (form.text t ++ zone.text)))
        let zoned : ZonedDateTime := ⟨form.kept t, zone.offset⟩
        here.toZonedDateTime.outcome = .ok zoned ∧ here.toDateTime.outcome = .ok zoned.utc ∧
          zoned.utc.minuteNumber = (form.kept t).minuteNumber - zone.ahead ∧
          zoned.utc.clock.second = t.clock.second ∧
          zoned.utc.clock.nanosecond = (form.kept t).clock.nanosecond := by
  have supported := Calendar.isSupported_of_fourDigits first last .utc
  constructor
  · intro form
    exact outcome_toTimes_of_plain (.form form t) (Calendar.readPlain?_text form supported.1)
  · intro separator places zone form here zoned
    have internet := Calendar.Internet.read?_text first last separator places zone
    have read : readZoned? (form.text t ++ zone.text) = some zoned := by
      rw [readZoned?, internet]
      rfl
    have dated := (IsDated.form form t).append zone.text_ne_nil zone.forall_not_isBlank_text
    obtain ⟨kept, universal⟩ := outcome_toTimes_of_zoned dated read
    exact ⟨kept, universal, zoned.minuteNumber_utc, rfl, rfl⟩

theorem toTime_of_leap_second_west :
    let here := found (.string "2023-12-31 23:59:60.25-12:30")
    here.toZonedDateTime.outcome =
        .ok ⟨⟨⟨2023, 12, 31, by decide⟩, ⟨23, 59, 60, 250000000, by decide⟩⟩, ⟨-750, by decide⟩⟩ ∧
      here.toDateTime.outcome =
        .ok ⟨⟨2024, 1, 1, by decide⟩, ⟨12, 29, 60, 250000000, by decide⟩⟩ := by
  obtain ⟨-, zoned⟩ := toTime_of_calendar_form
    ⟨⟨2023, 12, 31, by decide⟩, ⟨23, 59, 60, 250000000, by decide⟩⟩ (by decide) (by decide)
  obtain ⟨kept, universal, -⟩ := zoned .space 2 (.signed true 12 30)
  exact ⟨kept, universal⟩

end Located

end DotPath
