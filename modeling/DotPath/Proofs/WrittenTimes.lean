import DotPath.Calendar.Printer
import DotPath.Proofs.EpochCounts

/-!
Calendar text that is written part by part is read part by part.  A number of fixed width is taken
off a text whatever stands behind it; a year with a sign and a fraction, which may have any number
of digits, have to be followed by something else than a digit.
-/

set_option autoImplicit false
set_option relaxedAutoImplicit false

namespace DotPath

/-! Digits in front of a text -/

namespace Text

variable (width n : Nat)

theorem paddedDigits_ne_nil : paddedDigits width n ≠ [] :=
  List.append_ne_nil_of_right_ne_nil _ (digits_ne_nil n)

theorem forall_isDigit_paddedDigits : ∀ c ∈ paddedDigits width n, c.isDigit = true :=
  fun _ member => isDigit_of_mem_paddedDigits member

theorem forall_not_isBlank_paddedDigits : ∀ c ∈ paddedDigits width n, isBlank c = false :=
  fun c member => isBlank_eq_false_of_isDigit (forall_isDigit_paddedDigits width n c member)

theorem trimStart_paddedDigits (rest : List Char) :
    trimStart (paddedDigits width n ++ rest) = paddedDigits width n ++ rest := by
  obtain ⟨c, others, shape⟩ := List.exists_cons_of_ne_nil (paddedDigits_ne_nil width n)
  have bare := forall_not_isBlank_paddedDigits width n c (shape ▸ List.mem_cons_self)
  rw [shape]
  exact Calendar.trimStart_of_not_blank bare (others ++ rest)

/-- A run of digits ends at the first character that is none. -/
theorem spanDigits_paddedDigits {rest : List Char} (ends : ∀ c ∈ rest.head?, c.isDigit = false) :
    spanDigits (paddedDigits width n ++ rest) = (paddedDigits width n, rest) := by
  have all := forall_isDigit_paddedDigits width n
  have behind : rest.takeWhile Char.isDigit = [] ∧ rest.dropWhile Char.isDigit = rest := by
    cases rest with
    | nil => exact ⟨rfl, rfl⟩
    | cons c more =>
      have other : c.isDigit = false := ends c rfl
      simp [other]
  unfold spanDigits
  rw [List.takeWhile_append_of_pos all, List.dropWhile_append_of_pos all, behind.1, behind.2,
    List.append_nil]

end Text

namespace Calendar

/-! Numbers -/

theorem number?_paddedDigits {least width n : Nat} (pos : 0 < width) (le : least ≤ width)
    (fits : n < 10 ^ width) (rest : List Char) :
    number? least width (Text.paddedDigits width n ++ rest) = some (n, rest) := by
  have length := Text.length_paddedDigits pos fits
  have taken : ((Text.paddedDigits width n ++ rest).takeWhile Char.isDigit).take width =
      Text.paddedDigits width n := by
    rw [List.takeWhile_append_of_pos (Text.forall_isDigit_paddedDigits width n),
      List.take_left' length]
  simp only [number?, taken, length, if_neg (Nat.not_lt.mpr le), Text.value_paddedDigits,
    List.drop_left' length]

theorem wholeNumber?_paddedDigits (width n : Nat) {rest : List Char}
    (ends : ∀ c ∈ rest.head?, c.isDigit = false) :
    wholeNumber? 1 (Text.paddedDigits width n ++ rest) =
      some (n, (Text.paddedDigits width n).length, rest) := by
  have spanned := Text.spanDigits_paddedDigits width n ends
  have enough : ¬(Text.paddedDigits width n).length < 1 := by
    rw [Nat.lt_one_iff, List.length_eq_zero_iff]
    exact Text.paddedDigits_ne_nil width n
  simp only [wholeNumber?, spanned, if_neg enough, Text.value_paddedDigits]

theorem year?_yearText (year : Int) (rest : List Char) :
    year? (yearText year ++ '-' :: rest) = some (year, '-' :: rest) := by
  have whole : wholeNumber? 1 (Text.paddedDigits 4 year.natAbs ++ '-' :: rest) =
      some (year.natAbs, (Text.paddedDigits 4 year.natAbs).length, '-' :: rest) :=
    wholeNumber?_paddedDigits 4 year.natAbs (by simp)
  unfold yearText
  split
  next before =>
    have magnitude : -(year.natAbs : Int) = year := by omega
    rw [List.cons_append]
    show (wholeNumber? 1 (Text.paddedDigits 4 year.natAbs ++ '-' :: rest)).map _ = _
    simp only [whole, Option.map_some, magnitude]
  next not_before =>
    have magnitude : (year.natAbs : Int) = year := by omega
    split
    next after =>
      rw [List.cons_append]
      show (wholeNumber? 1 (Text.paddedDigits 4 year.natAbs ++ '-' :: rest)).map _ = _
      simp only [whole, Option.map_some, magnitude]
    next within =>
      have fits : year.natAbs < 10 ^ 4 := by omega
      have number : number? 1 4 (Text.paddedDigits 4 year.natAbs ++ '-' :: rest) =
          some (year.natAbs, '-' :: rest) :=
        number?_paddedDigits (by decide) (by decide) fits ('-' :: rest)
      obtain ⟨c, others, shape, digit⟩ := exists_digit_of_number? (by decide) number
      rw [shape, year?_of_isDigit digit, ← shape]
      simp only [number, Option.map_some, magnitude]

theorem yearText_ne_nil (year : Int) : yearText year ≠ [] := by
  unfold yearText
  split_ifs
  · exact List.cons_ne_nil _ _
  · exact List.cons_ne_nil _ _
  · exact Text.paddedDigits_ne_nil 4 year.natAbs

theorem forall_not_isBlank_yearText (year : Int) : ∀ c ∈ yearText year, Text.isBlank c = false := by
  have digits := Text.forall_not_isBlank_paddedDigits 4 year.natAbs
  unfold yearText
  split_ifs
  · exact List.forall_mem_cons.mpr ⟨by decide, digits⟩
  · exact List.forall_mem_cons.mpr ⟨by decide, digits⟩
  · exact digits

theorem trimStart_yearText (year : Int) (rest : List Char) :
    Text.trimStart (yearText year ++ rest) = yearText year ++ rest := by
  obtain ⟨c, others, shape⟩ := List.exists_cons_of_ne_nil (yearText_ne_nil year)
  have other : Text.isBlank c = false :=
    forall_not_isBlank_yearText year c (shape ▸ List.mem_cons_self)
  rw [shape]
  exact trimStart_of_not_blank other (others ++ rest)

/-! Fractions of a second -/

/-- The first digits of the fraction of a second, behind a point; none are written without it. -/
def fractionDigits (places nanosecond : Nat) : List Char :=
  if places = 0 then []
  else '.' :: Text.paddedDigits places (nanosecond / 10 ^ (9 - places))

def keptFraction (places nanosecond : Nat) : Nat :=
  nanosecond / 10 ^ (9 - places) * 10 ^ (9 - places)

theorem keptFraction_lt {nanosecond : Nat} (bounded : nanosecond < 10 ^ 9) (places : Nat) :
    keptFraction places nanosecond < 10 ^ 9 :=
  Nat.lt_of_le_of_lt (Nat.div_mul_le_self _ _) bounded

theorem fraction?_fractionDigits {places nanosecond : Nat} {rest : List Char} (le : places ≤ 9)
    (bounded : nanosecond < 10 ^ 9) (ends : ∀ c ∈ rest.head?, c.isDigit = false ∧ c ≠ '.') :
    fraction? (fractionDigits places nanosecond ++ rest) =
      some (keptFraction places nanosecond, rest) := by
  unfold fractionDigits
  split
  next none =>
    subst none
    have zero : keptFraction 0 nanosecond = 0 := by
      unfold keptFraction
      rw [Nat.div_eq_of_lt bounded, Nat.zero_mul]
    rw [List.nil_append, zero]
    unfold fraction?
    split
    next => exact absurd rfl (ends '.' rfl).2
    next => rfl
  next some =>
    have pos : 0 < places := Nat.pos_of_ne_zero some
    have fits : nanosecond / 10 ^ (9 - places) < 10 ^ places := by
      apply Nat.div_lt_of_lt_mul
      rw [← Nat.pow_add, Nat.sub_add_cancel le]
      exact bounded
    have length := Text.length_paddedDigits pos fits
    have spanned := Text.spanDigits_paddedDigits places (nanosecond / 10 ^ (9 - places))
      fun c member => (ends c member).1
    have whole : (Text.paddedDigits places (nanosecond / 10 ^ (9 - places))).take 9 =
        Text.paddedDigits places (nanosecond / 10 ^ (9 - places)) :=
      List.take_of_length_le (length.trans_le le)
    have nonempty : ¬(Text.paddedDigits places (nanosecond / 10 ^ (9 - places))).isEmpty = true :=
      fun empty => Text.paddedDigits_ne_nil _ _ (List.isEmpty_iff.mp empty)
    rw [List.cons_append]
    show nanoseconds? _ = _
    simp only [nanoseconds?, spanned, whole, if_neg nonempty, Text.value_paddedDigits, length]
    rfl

/-- A fraction is printed with enough of its digits to keep it. -/
theorem exists_fractionText_eq (nanosecond : Nat) :
    ∃ places ≤ 9, fractionText nanosecond = fractionDigits places nanosecond ∧
      keptFraction places nanosecond = nanosecond := by
  unfold fractionText
  split
  next zero => exact ⟨0, by decide, rfl, by rw [zero]; rfl⟩
  next =>
    split
    next millis => exact ⟨3, by decide, rfl, Nat.div_mul_cancel (Nat.dvd_of_mod_eq_zero millis)⟩
    next =>
      split
      next micros => exact ⟨6, by decide, rfl, Nat.div_mul_cancel (Nat.dvd_of_mod_eq_zero micros)⟩
      next => exact ⟨9, by decide, by simp [fractionDigits], by simp [keptFraction]⟩

/-! Parts of a form -/

def Clock.minutesText (c : Clock) : List Char :=
  Text.paddedDigits 2 c.hour ++ ':' :: Text.paddedDigits 2 c.minute

def Clock.secondsText (places : Nat) (c : Clock) : List Char :=
  ':' :: Text.paddedDigits 2 c.second ++ fractionDigits places c.nanosecond

theorem Date.month_lt (d : Date) : d.month < 10 ^ 2 :=
  Nat.lt_of_le_of_lt d.exists_day.2.1 (by decide)

theorem Date.day_lt (d : Date) : d.day < 10 ^ 2 :=
  Nat.lt_of_le_of_lt (le_daysInMonth d.exists_day).1 (by decide)

namespace Clock

variable (c : Clock)

theorem hour_lt : c.hour < 10 ^ 2 :=
  Nat.lt_trans c.in_bounds.1 (by decide)

theorem minute_lt : c.minute < 10 ^ 2 :=
  Nat.lt_trans c.in_bounds.2.1 (by decide)

theorem second_lt : c.second < 10 ^ 2 :=
  Nat.lt_of_le_of_lt c.in_bounds.2.2.1 (by decide)

end Clock

namespace Part

variable {fields next : Fields} {text rest : List Char} {part : Part} {parts : List Part}

theorem readAll_of_read (read : part.read fields text = some (next, rest)) :
    readAll (part :: parts) fields text = readAll parts next rest := by
  simp only [readAll, read]
  rfl

theorem readAll_of_none (unread : part.read fields text = none) :
    readAll (part :: parts) fields text = none := by
  simp only [readAll, unread]
  rfl

theorem readAll_year (parts : List Part) (fields : Fields) (year : Int) (rest : List Char) :
    readAll (.year :: parts) fields (yearText year ++ '-' :: rest) =
      readAll parts { fields with year } ('-' :: rest) := by
  apply readAll_of_read
  show (year? (Text.trimStart (yearText year ++ '-' :: rest))).map _ = _
  rw [trimStart_yearText, year?_yearText]
  rfl

theorem readAll_numeral (part : Part) (put : Fields → Nat → Fields)
    (numeral : ∀ fields text, part.read fields text = read.numeral text (put fields)) {n : Nat}
    (fits : n < 10 ^ 2) (parts : List Part) (fields : Fields) (rest : List Char) :
    readAll (part :: parts) fields (Text.paddedDigits 2 n ++ rest) =
      readAll parts (put fields n) rest := by
  apply readAll_of_read
  rw [numeral, read.numeral, Text.trimStart_paddedDigits,
    number?_paddedDigits (by decide) (by decide) fits]
  rfl

theorem readAll_literal (c : Char) (parts : List Part) (fields : Fields) (rest : List Char) :
    readAll (.literal c :: parts) fields (c :: rest) = readAll parts fields rest := by
  apply readAll_of_read
  show (literal? c (c :: rest)).map _ = _
  rw [literal?_eq_some_iff.mpr rfl]
  rfl

theorem readAll_date (d : Date) (parts : List Part) (fields : Fields) (rest : List Char) :
    readAll (date ++ parts) fields (d.text ++ rest) =
      readAll parts { fields with year := d.year, month := d.month, day := d.day } rest := by
  have shape : d.text ++ rest = yearText d.year ++ '-' ::
      (Text.paddedDigits 2 d.month ++ '-' :: (Text.paddedDigits 2 d.day ++ rest)) := by
    simp [Date.text]
  rw [shape]
  show readAll (.year :: .literal '-' :: .month :: .literal '-' :: .day :: parts) _ _ = _
  rw [readAll_year, readAll_literal,
    readAll_numeral .month (fun fields n => { fields with month := n }) (fun _ _ => rfl) d.month_lt,
    readAll_literal,
    readAll_numeral .day (fun fields n => { fields with day := n }) (fun _ _ => rfl) d.day_lt]

theorem readAll_clock (c : Clock) (parts : List Part) (fields : Fields) (rest : List Char) :
    readAll (clock ++ parts) fields (c.minutesText ++ rest) =
      readAll parts { fields with hour := c.hour, minute := c.minute } rest := by
  have shape : c.minutesText ++ rest =
      Text.paddedDigits 2 c.hour ++ ':' :: (Text.paddedDigits 2 c.minute ++ rest) := by
    simp [Clock.minutesText]
  rw [shape]
  show readAll (.hour :: .literal ':' :: .minute :: parts) _ _ = _
  rw [readAll_numeral .hour (fun fields n => { fields with hour := n }) (fun _ _ => rfl) c.hour_lt,
    readAll_literal,
    readAll_numeral .minute (fun fields n => { fields with minute := n }) (fun _ _ => rfl)
      c.minute_lt]

theorem readAll_seconds {places : Nat} (le : places ≤ 9) (c : Clock) (fields : Fields) :
    readAll seconds fields (c.secondsText places) =
      some { fields with second := c.second, nanosecond := keptFraction places c.nanosecond } := by
  have fraction : fraction? (fractionDigits places c.nanosecond ++ []) =
      some (keptFraction places c.nanosecond, []) :=
    fraction?_fractionDigits le c.in_bounds.2.2.2 nofun
  rw [List.append_nil] at fraction
  show readAll [.literal ':', .second, .fraction] _
    (':' :: (Text.paddedDigits 2 c.second ++ fractionDigits places c.nanosecond)) = _
  rw [readAll_literal,
    readAll_numeral .second (fun fields n => { fields with second := n }) (fun _ _ => rfl)
      c.second_lt]
  show ((fraction? (fractionDigits places c.nanosecond)).map _).bind _ = _
  rw [fraction]
  rfl

end Part

end Calendar

end DotPath
