/-!
Dates of the proleptic Gregorian calendar and their day numbers.  `dayNumber` counts the days from
1 January 1970, and `ofDayNumber` is the date with a given count.  Both count years from 1 March, so
that a leap day is the last day of its year.
-/

set_option autoImplicit false
set_option relaxedAutoImplicit false

namespace DotPath.Calendar

def isLeapYear (year : Int) : Bool :=
  year % 4 = 0 && (year % 100 ≠ 0 || year % 400 = 0)

theorem isLeapYear_iff (year : Int) :
    isLeapYear year = true ↔ year % 4 = 0 ∧ (year % 100 ≠ 0 ∨ year % 400 = 0) := by
  simp [isLeapYear]

def daysInMonth (year : Int) (month : Nat) : Nat :=
  if month = 2 then if isLeapYear year then 29 else 28
  else if month = 4 ∨ month = 6 ∨ month = 9 ∨ month = 11 then 30
  else 31

def IsDate (year : Int) (month day : Nat) : Prop :=
  1 ≤ month ∧ month ≤ 12 ∧ 1 ≤ day ∧ day ≤ daysInMonth year month

instance (year : Int) (month day : Nat) : Decidable (IsDate year month day) :=
  inferInstanceAs (Decidable (_ ∧ _ ∧ _ ∧ _))

/-- A date of the proleptic Gregorian calendar; the year before year 1 is year 0. -/
structure Date where
  year : Int
  month : Nat
  day : Nat
  exists_day : IsDate year month day
  deriving DecidableEq

namespace Date

def ofCivil? (year : Int) (month day : Nat) : Option Date :=
  if exists_day : IsDate year month day then some ⟨year, month, day, exists_day⟩ else none

/-- The days from 1 March of year 0 to 1 January 1970. -/
def epochShift : Int := 719468

/-- The days of four hundred years. -/
def cycleDays : Int := 146097

/-- The day of the year counted from 1 March, from zero on. -/
def dayOfMarchYear (month day : Nat) : Int :=
  (153 * ((month : Int) + (if month ≤ 2 then 9 else -3)) + 2) / 5 + day - 1

/-- The days from 1 March of year 0 to 1 March of a year. -/
def daysBeforeMarchYear (year : Int) : Int :=
  365 * year + year / 4 - year / 100 + year / 400

/-- The days from 1 January 1970 to a date. -/
def dayNumber (d : Date) : Int :=
  daysBeforeMarchYear (if d.month ≤ 2 then d.year - 1 else d.year)
    + dayOfMarchYear d.month d.day - epochShift

structure MarchDay where
  year : Int
  day : Int

/-- The year and the day of it with a count of days from 1 March of year 0: a cycle of four hundred
years, then a century, then four years, then a year, of which the last one takes the leap day. -/
def marchDay (days : Int) : MarchDay :=
  let inCycle := days % cycleDays
  let century := min (inCycle / 36524) 3
  let inCentury := inCycle - 36524 * century
  let quad := inCentury / 1461
  let inQuad := inCentury - 1461 * quad
  let year := min (inQuad / 365) 3
  ⟨400 * (days / cycleDays) + 100 * century + 4 * quad + year, inQuad - 365 * year⟩

/-- The month, counted from March as zero, that a day of the March year lies in. -/
def marchMonth (day : Int) : Int :=
  (5 * day + 2) / 153

private theorem century_bounds {inCycle century inCentury : Int} (nonneg : 0 ≤ inCycle)
    (lt : inCycle < 146097) (century_eq : century = min (inCycle / 36524) 3)
    (rest_eq : inCentury = inCycle - 36524 * century) :
    0 ≤ inCentury ∧ inCentury ≤ 36524 ∧ (inCentury = 36524 → century = 3) := by
  omega

private theorem quad_bounds {inCentury quad inQuad : Int} (nonneg : 0 ≤ inCentury)
    (le : inCentury ≤ 36524) (quad_eq : quad = inCentury / 1461)
    (rest_eq : inQuad = inCentury - 1461 * quad) :
    0 ≤ quad ∧ quad ≤ 24 ∧ 0 ≤ inQuad ∧ inQuad ≤ 1460 ∧
      (inQuad = 1460 → quad ≠ 24 ∨ inCentury = 36524) := by
  omega

private theorem year_bounds {inQuad year day : Int} (nonneg : 0 ≤ inQuad) (le : inQuad ≤ 1460)
    (year_eq : year = min (inQuad / 365) 3) (rest_eq : day = inQuad - 365 * year) :
    0 ≤ day ∧ day ≤ 365 ∧ (day = 365 → year = 3 ∧ inQuad = 1460) := by
  omega

private theorem isLeapYear_of_last {cycle century quad : Int}
    (last : quad ≠ 24 ∨ century = 3) (nonneg : 0 ≤ quad) (le : quad ≤ 24) :
    isLeapYear (400 * cycle + 100 * century + 4 * quad + 3 + 1) = true := by
  rw [isLeapYear_iff]
  omega

theorem marchDay_bounds (days : Int) :
    0 ≤ (marchDay days).day ∧ (marchDay days).day ≤ 365 ∧
      ((marchDay days).day = 365 → isLeapYear ((marchDay days).year + 1) = true) := by
  have cycle_nonneg : 0 ≤ days % 146097 := Int.emod_nonneg _ (by decide)
  have cycle_lt : days % 146097 < 146097 := Int.emod_lt_of_pos _ (by decide)
  have century := century_bounds cycle_nonneg cycle_lt rfl rfl
  have quad := quad_bounds century.1 century.2.1 rfl rfl
  have year := year_bounds quad.2.2.1 quad.2.2.2.1 rfl rfl
  refine ⟨year.1, year.2.1, fun last => ?_⟩
  obtain ⟨year_eq, last_quad⟩ := year.2.2 last
  simp only [marchDay, cycleDays, year_eq]
  refine isLeapYear_of_last ?_ quad.1 quad.2.1
  exact (quad.2.2.2.2 last_quad).imp_right century.2.2

private theorem daysBeforeMarchYear_eq {cycle century quad year : Int}
    (century_nonneg : 0 ≤ century) (century_le : century ≤ 3) (quad_nonneg : 0 ≤ quad)
    (quad_le : quad ≤ 24) (year_nonneg : 0 ≤ year) (year_le : year ≤ 3) :
    daysBeforeMarchYear (400 * cycle + 100 * century + 4 * quad + year) =
      146097 * cycle + 36524 * century + 1461 * quad + 365 * year := by
  unfold daysBeforeMarchYear
  omega

theorem daysBeforeMarchYear_marchDay (days : Int) :
    daysBeforeMarchYear (marchDay days).year + (marchDay days).day = days := by
  have cycle_nonneg : 0 ≤ days % 146097 := Int.emod_nonneg _ (by decide)
  have cycle_lt : days % 146097 < 146097 := Int.emod_lt_of_pos _ (by decide)
  simp only [marchDay, cycleDays]
  rw [daysBeforeMarchYear_eq] <;> omega

private theorem exists_year_parts (year : Int) :
    ∃ cycle century quad rest : Int, year = 400 * cycle + 100 * century + 4 * quad + rest ∧
      0 ≤ century ∧ century ≤ 3 ∧ 0 ≤ quad ∧ quad ≤ 24 ∧ 0 ≤ rest ∧ rest ≤ 3 :=
  ⟨year / 400, year / 100 % 4, year / 4 % 25, year % 4, by omega⟩

theorem marchDay_eq {year day : Int} (nonneg : 0 ≤ day) (le : day ≤ 365)
    (leap : day = 365 → isLeapYear (year + 1) = true) :
    marchDay (daysBeforeMarchYear year + day) = ⟨year, day⟩ := by
  obtain ⟨cycle, century, quad, rest, rfl, century_nonneg, century_le, quad_nonneg, quad_le,
    rest_nonneg, rest_le⟩ := exists_year_parts year
  rw [daysBeforeMarchYear_eq century_nonneg century_le quad_nonneg quad_le rest_nonneg rest_le]
  have last : day = 365 → rest = 3 ∧ (quad = 24 → century = 3) := by
    intro day_eq
    have leap_year := (isLeapYear_iff _).1 (leap day_eq)
    omega
  have cycle_eq : (146097 * cycle + 36524 * century + 1461 * quad + 365 * rest + day) / 146097
      = cycle := by omega
  have in_cycle : (146097 * cycle + 36524 * century + 1461 * quad + 365 * rest + day) % 146097
      = 36524 * century + 1461 * quad + 365 * rest + day := by omega
  have century_eq : min ((36524 * century + 1461 * quad + 365 * rest + day) / 36524) 3
      = century := by omega
  have in_century : 36524 * century + 1461 * quad + 365 * rest + day - 36524 * century
      = 1461 * quad + 365 * rest + day := by omega
  have quad_eq : (1461 * quad + 365 * rest + day) / 1461 = quad := by omega
  have in_quad : 1461 * quad + 365 * rest + day - 1461 * quad = 365 * rest + day := by omega
  have rest_eq : min ((365 * rest + day) / 365) 3 = rest := by omega
  have in_year : 365 * rest + day - 365 * rest = day := by omega
  simp only [marchDay, cycleDays, cycle_eq, in_cycle, century_eq, in_century, quad_eq, in_quad,
    rest_eq, in_year]

private theorem isDate_of_marchDay {year day : Int} (nonneg : 0 ≤ day) (le : day ≤ 365)
    (leap : day = 365 → isLeapYear (year + 1) = true) :
    IsDate (if marchMonth day < 10 then year else year + 1)
      (if marchMonth day < 10 then marchMonth day + 3 else marchMonth day - 9).toNat
      (day - (153 * marchMonth day + 2) / 5 + 1).toNat := by
  obtain ⟨m, month_eq⟩ : ∃ m, marchMonth day = m := ⟨_, rfl⟩
  have low : 153 * m ≤ 5 * day + 2 := by unfold marchMonth at month_eq; omega
  have high : 5 * day + 2 < 153 * m + 153 := by unfold marchMonth at month_eq; omega
  rw [month_eq]
  clear month_eq
  have months : m = 0 ∨ m = 1 ∨ m = 2 ∨ m = 3 ∨ m = 4 ∨ m = 5 ∨ m = 6 ∨ m = 7 ∨ m = 8 ∨ m = 9 ∨
      m = 10 ∨ m = 11 := by omega
  rcases months with rfl | rfl | rfl | rfl | rfl | rfl | rfl | rfl | rfl | rfl | rfl | rfl <;>
    simp [IsDate, daysInMonth] <;> grind

def ofDayNumber (n : Int) : Date :=
  let march := marchDay (n + epochShift)
  let month := marchMonth march.day
  { year := if month < 10 then march.year else march.year + 1
    month := (if month < 10 then month + 3 else month - 9).toNat
    day := (march.day - (153 * month + 2) / 5 + 1).toNat
    exists_day :=
      have bounds := marchDay_bounds (n + epochShift)
      isDate_of_marchDay bounds.1 bounds.2.1 bounds.2.2 }

private theorem marchMonth_bounds {day : Int} (nonneg : 0 ≤ day) (le : day ≤ 365) :
    0 ≤ marchMonth day ∧ marchMonth day ≤ 11 ∧ (153 * marchMonth day + 2) / 5 ≤ day := by
  unfold marchMonth
  omega

theorem dayNumber_ofDayNumber (n : Int) : (ofDayNumber n).dayNumber = n := by
  have bounds := marchDay_bounds (n + epochShift)
  have days := daysBeforeMarchYear_marchDay (n + epochShift)
  obtain ⟨nonneg, le, start_le⟩ := marchMonth_bounds bounds.1 bounds.2.1
  have late_iff : ∀ m : Int, 0 ≤ m → m ≤ 11 →
      ((if m < 10 then m + 3 else m - 9).toNat ≤ 2 ↔ ¬ m < 10) := by
    intro m _ _
    split <;> omega
  simp only [ofDayNumber, dayNumber, dayOfMarchYear, late_iff _ nonneg le]
  split <;> simp_all <;> omega

private theorem dayOfMarchYear_bounds {year : Int} {month day : Nat}
    (exists_day : IsDate year month day) :
    0 ≤ dayOfMarchYear month day ∧ dayOfMarchYear month day ≤ 365 ∧
      (dayOfMarchYear month day = 365 → month = 2 ∧ isLeapYear year = true) ∧
      marchMonth (dayOfMarchYear month day) = month + (if month ≤ 2 then 9 else -3) := by
  obtain ⟨month_pos, month_le, day_pos, day_le⟩ := exists_day
  have months : month = 1 ∨ month = 2 ∨ month = 3 ∨ month = 4 ∨ month = 5 ∨ month = 6 ∨
      month = 7 ∨ month = 8 ∨ month = 9 ∨ month = 10 ∨ month = 11 ∨ month = 12 := by omega
  unfold marchMonth dayOfMarchYear
  rcases months with rfl | rfl | rfl | rfl | rfl | rfl | rfl | rfl | rfl | rfl | rfl | rfl <;>
    simp [daysInMonth] at day_le ⊢ <;> grind

theorem ofDayNumber_dayNumber (d : Date) : ofDayNumber d.dayNumber = d := by
  obtain ⟨year, month, day, exists_day⟩ := d
  obtain ⟨nonneg, le, leap, month_eq⟩ := dayOfMarchYear_bounds exists_day
  have march : marchDay (dayNumber ⟨year, month, day, exists_day⟩ + epochShift) =
      ⟨if month ≤ 2 then year - 1 else year, dayOfMarchYear month day⟩ := by
    rw [← marchDay_eq nonneg le]
    · simp [dayNumber]
    · intro last
      simp [leap last]
  have month_pos := exists_day.1
  have month_le := exists_day.2.1
  have day_pos := exists_day.2.2.1
  simp only [ofDayNumber, march, month_eq, mk.injEq]
  unfold dayOfMarchYear
  split <;> refine ⟨?_, ?_, ?_⟩ <;> grind

/-- The years for which date and time arithmetic is supported. -/
def IsSupported (d : Date) : Prop :=
  -262143 ≤ d.year ∧ d.year ≤ 262142

instance (d : Date) : Decidable d.IsSupported :=
  inferInstanceAs (Decidable (_ ∧ _))

/-- The day of the week, from Monday as zero. -/
def weekday (d : Date) : Nat :=
  ((d.dayNumber + 3) % 7).toNat

end Date

end DotPath.Calendar
