import DotPath.Proofs.DecimalDigits
import DotPath.Proofs.Scanning
import DotPath.Reading.Time

/-!
No text has both a form without an offset and one with an offset.  Behind an unsigned year the forms
without an offset have two signs, and an internet timestamp has three; and behind the first number
of a message date there is a blank, where a plain date has a sign.
-/

set_option autoImplicit false
set_option relaxedAutoImplicit false

namespace DotPath.Calendar

/-! Forms without an offset -/

/-- The number of signs that a part takes.  A year may take one more. -/
def Part.signCount : Part → Nat
  | .literal c => if c ∈ signs then 1 else 0
  | _ => 0

section Plain

variable {fields next : Fields} {text rest : List Char}

private theorem signCount_numeral {put : Nat → Fields}
    (read : Part.read.numeral text put = some (next, rest)) : signCount text = signCount rest := by
  obtain ⟨⟨n, behind⟩, number, same⟩ := Option.map_eq_some_iff.mp read
  cases same
  rw [← signCount_number? number, signCount_trimStart]

theorem signCount_read {part : Part} (other : part ≠ .year)
    (read : part.read fields text = some (next, rest)) :
    signCount text = signCount rest + part.signCount := by
  cases part with
  | year => exact absurd rfl other
  | month | day | hour | minute | second =>
    simp only [Part.read] at read
    exact signCount_numeral read
  | fraction =>
    obtain ⟨⟨n, behind⟩, fraction, same⟩ := Option.map_eq_some_iff.mp read
    cases same
    exact signCount_fraction? fraction
  | literal c =>
    obtain ⟨behind, literal, same⟩ := Option.map_eq_some_iff.mp read
    cases same
    exact signCount_literal? literal
  | blank =>
    cases read
    exact (signCount_trimStart text).symm

theorem signCount_readAll {parts : List Part} (others : .year ∉ parts)
    (read : Part.readAll parts fields text = some next) :
    signCount text = (parts.map Part.signCount).sum := by
  induction parts generalizing fields text with
  | nil =>
    simp only [Part.readAll] at read
    split at read
    · rename_i none
      rw [List.isEmpty_iff.mp none]
      rfl
    · cases read
  | cons part parts ih =>
    obtain ⟨⟨between, rest⟩, first, behind⟩ := Option.bind_eq_some_iff.mp read
    have other : part ≠ .year := (List.ne_of_not_mem_cons others).symm
    rw [signCount_read other first, ih (List.not_mem_of_not_mem_cons others) behind,
      List.map_cons, List.sum_cons, Nat.add_comm]

private theorem plainForms_shape {form : List Part} (member : form ∈ plainForms) :
    ∃ parts, form = .year :: .literal '-' :: parts ∧ .year ∉ parts ∧
      (parts.map Part.signCount).sum = 1 := by
  simp only [plainForms, List.mem_cons, List.not_mem_nil, or_false] at member
  rcases member with rfl | rfl | rfl | rfl | rfl <;> exact ⟨_, rfl, by decide, rfl⟩

/-- A text with a form without an offset has a year in front, and two signs behind it, of which the
first follows at once. -/
theorem exists_year_of_readPlain? {time : DateTime} (read : readPlain? text = some time) :
    ∃ year rest, year? (Text.trimStart text) = some (year, '-' :: rest) ∧
      signCount ('-' :: rest) = 2 := by
  obtain ⟨form, member, found⟩ := List.exists_of_findSome?_eq_some read
  obtain ⟨parts, rfl, others, count⟩ := plainForms_shape member
  obtain ⟨fields, all, -⟩ := Option.bind_eq_some_iff.mp found
  obtain ⟨⟨dated, behind⟩, first, all⟩ := Option.bind_eq_some_iff.mp all
  obtain ⟨⟨year, behind⟩, year_read, same⟩ := Option.map_eq_some_iff.mp first
  cases same
  obtain ⟨⟨kept, rest⟩, second, all⟩ := Option.bind_eq_some_iff.mp all
  obtain ⟨rest, literal, same⟩ := Option.map_eq_some_iff.mp second
  cases same
  obtain rfl := literal?_eq_some_iff.mp literal
  refine ⟨year, rest, year_read, ?_⟩
  rw [signCount_cons, signCount_readAll others all, count]
  rfl

end Plain

/-! Internet timestamps -/

section Internet

variable {text rest : List Char}

private theorem signCount_separator? (read : Internet.separator? text = some rest) :
    signCount text = signCount rest := by
  unfold Internet.separator? at read
  split at read <;> cases read <;> rw [signCount_cons] <;> rfl

private theorem signCount_offsetMinutes? {n : Nat}
    (read : offsetMinutes? (literal? ':') text = some (n, rest)) :
    signCount text = signCount rest := by
  simp only [offsetMinutes?, Option.bind_eq_bind, Option.bind_eq_some_iff, Prod.exists] at read
  obtain ⟨hours, behindHours, hour, behind, colon, minutes, last, minute, kept⟩ := read
  split at kept
  · cases kept
  · cases kept
    rw [signCount_number? hour, signCount_literal? colon, signCount_number? minute]
    rfl

private theorem signCount_behind_sign {c : Char} (sign : c ∈ signs) {behind : List Char}
    {put : Nat × List Char → Int × List Char} (keeps : ∀ taken, (put taken).2 = taken.2) {n : Int}
    (read : (offsetMinutes? (literal? ':') behind).map put = some (n, rest)) :
    signCount (c :: behind) = signCount rest + 1 := by
  obtain ⟨⟨minutes, left⟩, offset, same⟩ := Option.map_eq_some_iff.mp read
  obtain rfl : left = rest := (keeps (minutes, left)).symm.trans (congrArg Prod.snd same)
  rw [signCount_cons, signCount_offsetMinutes? offset, if_pos sign]

theorem signCount_offset? {n : Int} (read : Internet.offset? text = some (n, rest)) :
    signCount text = signCount rest + 1 := by
  unfold Internet.offset? at read
  split at read
  · cases read
    exact signCount_cons 'Z' rest
  · cases read
    exact signCount_cons 'z' rest
  · exact signCount_behind_sign (by decide) (fun _ => rfl) read
  · exact signCount_behind_sign (by decide) (fun _ => rfl) read
  · exact signCount_behind_sign (by decide) (fun _ => rfl) read
  · cases read

theorem exists_digit_of_fields? {fields : Fields}
    (read : Internet.fields? text = some (fields, rest)) :
    (∃ c behind, text = c :: behind ∧ c.isDigit = true) ∧ signCount text = signCount rest + 2 := by
  simp only [Internet.fields?, Option.bind_eq_bind, Option.bind_eq_some_iff, Prod.exists,
    Option.pure_def, Option.some.injEq, Prod.mk.injEq] at read
  obtain ⟨_, _, year, _, hyphen, _, _, month, _, otherHyphen, _, _, day, _, separator, _, _, hour,
    _, colon, _, _, minute, _, otherColon, _, _, second, _, _, fraction, -, rfl⟩ := read
  refine ⟨exists_digit_of_number? (by decide) year, ?_⟩
  rw [signCount_number? year, signCount_literal? hyphen, signCount_number? month,
    signCount_literal? otherHyphen, signCount_number? day, signCount_separator? separator,
    signCount_number? hour, signCount_literal? colon, signCount_number? minute,
    signCount_literal? otherColon, signCount_number? second, signCount_fraction? fraction]
  rfl

theorem signCount_of_internet {time : ZonedDateTime} (read : Internet.read? text = some time) :
    (∃ c behind, text = c :: behind ∧ c.isDigit = true) ∧ signCount text = 3 := by
  simp only [Internet.read?, Option.bind_eq_bind, Option.bind_eq_some_iff, Prod.exists] at read
  obtain ⟨fields, behind, fields_read, minutes, rest, offset, last⟩ := read
  split at last
  · rename_i none
    obtain ⟨digit, count⟩ := exists_digit_of_fields? fields_read
    rw [signCount_offset? offset, List.isEmpty_iff.mp none] at count
    exact ⟨digit, count⟩
  · cases last

end Internet

/-! Message dates -/

section Message

variable {text rest : List Char}

theorem exists_head_of_year? {year : Int} (read : year? text = some (year, rest)) :
    ∃ c behind, text = c :: behind ∧ (c.isDigit = true ∨ c = '+' ∨ c = '-') := by
  unfold year? at read
  split at read
  · exact ⟨_, _, rfl, .inr (.inr rfl)⟩
  · exact ⟨_, _, rfl, .inr (.inl rfl)⟩
  · obtain ⟨⟨n, behind⟩, number, -⟩ := Option.map_eq_some_iff.mp read
    obtain ⟨c, others, whole, digit⟩ := exists_digit_of_number? (by decide) number
    exact ⟨c, others, whole, .inl digit⟩

private theorem isAlpha_toLower {c : Char} (head : c.isDigit = true ∨ c = '+' ∨ c = '-') :
    c.toLower.isAlpha = false := by
  rcases head with digit | rfl | rfl
  · have letterless : ∀ n < 10, n.digitChar.toLower.isAlpha = false := by decide
    rw [← Text.digitChar_digitValue digit]
    exact letterless _ (Text.digitValue_lt digit)
  · rfl
  · rfl

theorem weekday?_of_head {c : Char} (head : c.isDigit = true ∨ c = '+' ∨ c = '-')
    (behind : List Char) :
    Message.weekday? (c :: behind) = some (none, c :: behind) := by
  have letters : Message.weekdayNames.all (fun name => name.head?.any Char.isAlpha) = true := rfl
  have absent : Message.name? Message.weekdayNames (c :: behind) = none := by
    rw [Message.name?, Option.map_eq_none_iff, List.findIdx?_eq_none_iff]
    intro name member
    have letter := List.all_eq_true.mp letters name member
    rw [beq_eq_false_iff_ne]
    rintro rfl
    simp [isAlpha_toLower head] at letter
  rw [Message.weekday?, absent]

private theorem exists_blank_of_blank? (read : blank? text = some rest) :
    ∃ c behind, text = c :: behind ∧ Text.isBlank c = true := by
  unfold blank? at read
  split at read
  · split at read
    · rename_i blank
      exact ⟨_, _, rfl, blank⟩
    · cases read
  · cases read

/-- A message date that has a digit or a sign in front has a day there, with a blank behind it. -/
theorem exists_day_of_message {time : ZonedDateTime} {c : Char} {behind : List Char}
    (front : Text.trimStart text = c :: behind)
    (head : c.isDigit = true ∨ c = '+' ∨ c = '-') (read : Message.read? text = some time) :
    c.isDigit = true ∧ ∃ day space rest, number? 1 2 (c :: behind) = some (day, space :: rest) ∧
      Text.isBlank space = true := by
  have other : Text.isBlank c = false := by
    rcases head with digit | rfl | rfl
    · exact Text.isBlank_eq_false_of_isDigit digit
    · decide
    · decide
  simp only [Message.read?, Option.bind_eq_bind, Option.bind_eq_some_iff, Prod.exists] at read
  obtain ⟨weekday, dated, weekday_read, fields, zoned, fields_read, -⟩ := read
  rw [front, weekday?_of_head head] at weekday_read
  cases weekday_read
  simp only [Message.fields?, Option.bind_eq_bind, Option.bind_eq_some_iff, Prod.exists]
    at fields_read
  obtain ⟨day, undated, day_read, _, blank, -⟩ := fields_read
  rw [trimStart_of_not_blank other] at day_read
  obtain ⟨d, others, whole, digit⟩ := exists_digit_of_number? (by decide) day_read
  obtain ⟨rfl, rfl⟩ := List.cons.inj whole
  obtain ⟨space, spaced, rfl, isBlank⟩ := exists_blank_of_blank? blank
  exact ⟨digit, day, space, spaced, day_read, isBlank⟩

end Message

/-! No form of both kinds -/

theorem readPlain?_eq_none_of_internet {text : List Char} {time : ZonedDateTime}
    (read : Internet.read? text = some time) : readPlain? text = none := by
  rw [Option.eq_none_iff_forall_ne_some]
  intro plain plain_read
  obtain ⟨year, rest, year_read, two⟩ := exists_year_of_readPlain? plain_read
  obtain ⟨⟨c, behind, rfl, digit⟩, three⟩ := signCount_of_internet read
  rw [trimStart_of_not_blank (Text.isBlank_eq_false_of_isDigit digit),
    year?_of_isDigit digit] at year_read
  obtain ⟨⟨n, left⟩, number, same⟩ := Option.map_eq_some_iff.mp year_read
  cases same
  rw [signCount_number? number, two] at three
  cases three

theorem readPlain?_eq_none_of_message {text : List Char} {time : ZonedDateTime}
    (read : Message.read? text = some time) : readPlain? text = none := by
  rw [Option.eq_none_iff_forall_ne_some]
  intro plain plain_read
  obtain ⟨year, rest, year_read, -⟩ := exists_year_of_readPlain? plain_read
  obtain ⟨c, behind, front, head⟩ := exists_head_of_year? year_read
  obtain ⟨digit, day, space, left, day_read, blank⟩ := exists_day_of_message front head read
  rw [front, year?_of_isDigit digit] at year_read
  obtain ⟨⟨n, undated⟩, number, same⟩ := Option.map_eq_some_iff.mp year_read
  cases same
  -- The digits of the day are those of the year, with a blank behind them and a sign.
  have other : space.isDigit = false := by
    rw [← Bool.not_eq_true]
    intro digit
    simp [Text.isBlank_eq_false_of_isDigit digit] at blank
  have day_behind := dropWhile_isDigit_of_number? other day_read
  have year_behind := dropWhile_isDigit_of_number? (by decide) number
  rw [day_behind] at year_behind
  cases year_behind
  cases blank

end DotPath.Calendar

namespace DotPath

/-- A text that has a form with an offset has none without one. -/
theorem readPlain?_eq_none_of_zoned {text : List Char} {time : Calendar.ZonedDateTime}
    (read : readZoned? text = some time) : Calendar.readPlain? text = none := by
  rcases Option.or_eq_some_iff.mp read with internet | ⟨-, message⟩
  · exact Calendar.readPlain?_eq_none_of_internet internet
  · exact Calendar.readPlain?_eq_none_of_message message

end DotPath
