import DotPath.Numeral
import DotPath.Proofs.DecimalDigits
import DotPath.Proofs.FloatRange
import Mathlib.Data.List.TakeWhile
import Mathlib.Data.Rat.Floor

/-!
The plain form of a number.  A text spells a number by a sign, digits with perhaps a point, and
perhaps an exponent; its plain form spells the same number, and a number has only one plain form.
-/

set_option autoImplicit false
set_option relaxedAutoImplicit false

namespace DotPath

/-! Texts that spell numbers -/

/-- Texts that spell a number without a sign or an exponent: digits, and perhaps a point with
digits behind it. -/
inductive SpellsMagnitude : List Char → ℚ → Prop
  | whole {digits : List Char} (numeral : Text.isNumeral digits = true) :
      SpellsMagnitude digits (Text.value digits)
  | pointed {digits part : List Char} (numeral : Text.isNumeral digits = true)
      (partNumeral : Text.isNumeral part = true) :
      SpellsMagnitude (digits ++ '.' :: part)
        (Text.value digits + Text.value part / 10 ^ part.length)

def exponentReach : Nat := 400

inductive SpellsExponent : List Char → Int → Prop
  | none : SpellsExponent [] 0
  | marked {mark : Char} {text : List Char} {k : Int} (isMark : mark = 'e' ∨ mark = 'E')
      (spells : SpellsInteger text k) (inReach : k.natAbs ≤ exponentReach) :
      SpellsExponent (mark :: text) k

/-- Texts that spell a number: a magnitude with an exponent, and perhaps a minus sign. -/
inductive SpellsNumber : List Char → ℚ → Prop
  | positive {mantissa tail : List Char} {q : ℚ} {k : Int} (magnitude : SpellsMagnitude mantissa q)
      (exponent : SpellsExponent tail k) : SpellsNumber (mantissa ++ tail) (q * 10 ^ k)
  | negative {mantissa tail : List Char} {q : ℚ} {k : Int} (magnitude : SpellsMagnitude mantissa q)
      (exponent : SpellsExponent tail k) : SpellsNumber ('-' :: (mantissa ++ tail)) (-(q * 10 ^ k))

private theorem ne_of_isDigit {c mark : Char} (digit : c.isDigit = true)
    (other : mark.isDigit = false) : c ≠ mark := by
  rintro rfl
  rw [digit] at other
  cases other

namespace SpellsMagnitude

variable {mantissa : List Char} {q : ℚ}

theorem isDigit_or_eq_point (spells : SpellsMagnitude mantissa q) :
    ∀ c ∈ mantissa, c.isDigit = true ∨ c = '.' := by
  intro c member
  cases spells with
  | whole numeral => exact .inl ((Text.isNumeral_iff.mp numeral).2 c member)
  | pointed numeral partNumeral =>
    rcases List.mem_append.mp member with front | back
    · exact .inl ((Text.isNumeral_iff.mp numeral).2 c front)
    · rcases List.mem_cons.mp back with point | part
      · exact .inr point
      · exact .inl ((Text.isNumeral_iff.mp partNumeral).2 c part)

theorem exists_eq_cons (spells : SpellsMagnitude mantissa q) :
    ∃ c rest, mantissa = c :: rest ∧ c.isDigit = true := by
  cases spells with
  | whole numeral => exact Text.exists_first_digit numeral
  | pointed numeral _ =>
    obtain ⟨c, rest, rfl, digit⟩ := Text.exists_first_digit numeral
    exact ⟨c, _, rfl, digit⟩

end SpellsMagnitude

namespace Numeral

def IsDecimal (n : Numeral) : Prop :=
  ∀ c ∈ n.whole ++ n.fraction, c.isDigit = true

def magnitude (n : Numeral) : ℚ :=
  Text.value (n.whole ++ n.fraction) * 10 ^ (n.exponent - n.fraction.length)

theorem toRat_eq (n : Numeral) :
    n.toRat = if n.negative then -n.magnitude else n.magnitude := by
  have scaled := Binary.scaled_quotient 10 (Text.value (n.whole ++ n.fraction)) 1
    (n.exponent - n.fraction.length)
  have quotient : mkRat (Text.value (n.whole ++ n.fraction) *
        10 ^ (n.exponent - n.fraction.length).toNat)
      (10 ^ (-(n.exponent - n.fraction.length)).toNat) = n.magnitude := by
    rw [Rat.mkRat_eq_div]
    unfold magnitude
    rw [Nat.cast_one, div_one] at scaled
    push_cast at scaled ⊢
    rw [one_mul] at scaled
    exact scaled
  simp only [toRat, quotient]

/-! Cutting texts -/

section Cut

variable {isMark : Char → Bool}

theorem cut_of_unmarked {text : List Char} (unmarked : ∀ c ∈ text, isMark c = false) :
    cut isMark text = (text, none) := by
  have passes : text.dropWhile (fun c => !isMark c) = [] :=
    List.dropWhile_eq_nil_iff.mpr fun c member => by simp [unmarked c member]
  unfold cut
  rw [passes]

theorem cut_append {front : List Char} {mark : Char} (unmarked : ∀ c ∈ front, isMark c = false)
    (marked : isMark mark = true) (back : List Char) :
    cut isMark (front ++ mark :: back) = (front, some back) := by
  have passes : ∀ c ∈ front, (!isMark c) = true := fun c member => by simp [unmarked c member]
  have dropped : (front ++ mark :: back).dropWhile (fun c => !isMark c) = mark :: back := by
    rw [List.dropWhile_append_of_pos passes]
    simp [marked]
  have taken : (front ++ mark :: back).takeWhile (fun c => !isMark c) = front := by
    rw [List.takeWhile_append_of_pos passes]
    simp [marked]
  unfold cut
  rw [dropped, taken]

end Cut

theorem readExponent_of_spells {text : List Char} {k : Int} (spells : SpellsInteger text k) :
    readExponent text = k := by
  cases spells with
  | plus numeral => rfl
  | minus numeral => rfl
  | bare numeral =>
    have no_sign {sign : Char} (other : sign.isDigit = false) (rest : List Char) :
        text ≠ sign :: rest := by
      rintro rfl
      have digit := (Text.isNumeral_iff.mp numeral).2 sign List.mem_cons_self
      exact ne_of_isDigit digit other rfl
    unfold readExponent
    split
    next rest => exact absurd rfl (no_sign rfl rest)
    next rest => exact absurd rfl (no_sign rfl rest)
    next => rfl

theorem cut_exponent {mantissa tail : List Char} {k : Int} (spells : SpellsExponent tail k)
    (unmarked : ∀ c ∈ mantissa, (decide (c = 'e') || decide (c = 'E')) = false) :
    ∃ exponent, cut (fun c => c = 'e' || c = 'E') (mantissa ++ tail) = (mantissa, exponent) ∧
      (exponent.map readExponent).getD 0 = k := by
  cases spells with
  | none =>
    rw [List.append_nil]
    exact ⟨none, cut_of_unmarked unmarked, rfl⟩
  | marked isMark spells =>
    refine ⟨some _, cut_append unmarked ?_ _, readExponent_of_spells spells⟩
    simpa using isMark

theorem cut_magnitude {mantissa : List Char} {q : ℚ} (spells : SpellsMagnitude mantissa q) :
    ∃ whole part, cut (· = '.') mantissa = (whole, part) ∧
      (∀ c ∈ whole ++ part.getD [], c.isDigit = true) ∧
      Text.value (whole ++ part.getD []) = q * 10 ^ (part.getD []).length := by
  have unpointed {digits : List Char} (numeral : Text.isNumeral digits = true) :
      ∀ c ∈ digits, decide (c = '.') = false := by
    intro c member
    refine decide_eq_false ?_
    rintro rfl
    cases (Text.isNumeral_iff.mp numeral).2 _ member
  cases spells with
  | whole numeral =>
    refine ⟨mantissa, none, cut_of_unmarked (unpointed numeral), ?_, ?_⟩
    · simpa using (Text.isNumeral_iff.mp numeral).2
    · simp
  | @pointed digits part numeral partNumeral =>
    refine ⟨digits, some part, cut_append (unpointed numeral) (decide_eq_true rfl) part, ?_, ?_⟩
    · exact List.forall_mem_append.mpr
        ⟨(Text.isNumeral_iff.mp numeral).2, (Text.isNumeral_iff.mp partNumeral).2⟩
    · rw [Option.getD_some, Text.value_append]
      push_cast
      field_simp

theorem ofText_of_parts {negative : Bool} {mantissa tail whole : List Char}
    {part exponent : Option (List Char)} {first : Char} {rest : List Char}
    (begins : mantissa = first :: rest) (digit : first.isDigit = true)
    (cut_body : cut (fun c => c = 'e' || c = 'E') (mantissa ++ tail) = (mantissa, exponent))
    (cut_mantissa : cut (· = '.') mantissa = (whole, part)) :
    ofText (if negative then '-' :: (mantissa ++ tail) else mantissa ++ tail) =
      ⟨negative, whole, part.getD [], (exponent.map readExponent).getD 0⟩ := by
  unfold ofText
  cases negative with
  | true => simp only [if_true, cut_body, cut_mantissa]
  | false =>
    simp only [Bool.false_eq_true, if_false]
    split
    next rest minus =>
      rw [begins, List.cons_append] at minus
      exact absurd (List.cons.inj minus).1 (ne_of_isDigit digit rfl)
    next => simp only [cut_body, cut_mantissa]

/-- A text that spells a number is read as a numeral in digits that denotes the number. -/
theorem ofText_of_spells {text : List Char} {q : ℚ} (spells : SpellsNumber text q) :
    (ofText text).IsDecimal ∧ (ofText text).toRat = q := by
  have read (negative : Bool) {mantissa tail : List Char} {p : ℚ} {k : Int}
      (spelled : SpellsMagnitude mantissa p) (powers : SpellsExponent tail k) :
      (ofText (if negative then '-' :: (mantissa ++ tail) else mantissa ++ tail)).IsDecimal ∧
        (ofText (if negative then '-' :: (mantissa ++ tail) else mantissa ++ tail)).toRat =
          if negative then -(p * 10 ^ k) else p * 10 ^ k := by
    obtain ⟨first, rest, begins, digit⟩ := spelled.exists_eq_cons
    obtain ⟨whole, part, cut_mantissa, digits, value⟩ := cut_magnitude spelled
    obtain ⟨exponent, cut_body, rfl⟩ := cut_exponent powers fun c member => by
      rcases spelled.isDigit_or_eq_point c member with digit | rfl
      · have lower : c ≠ 'e' := ne_of_isDigit digit rfl
        have upper : c ≠ 'E' := ne_of_isDigit digit rfl
        simp [lower, upper]
      · rfl
    rw [ofText_of_parts begins digit cut_body cut_mantissa, toRat_eq]
    refine ⟨digits, ?_⟩
    have same : magnitude
        ⟨negative, whole, part.getD [], (exponent.map readExponent).getD 0⟩ =
        p * 10 ^ (exponent.map readExponent).getD 0 := by
      unfold magnitude
      rw [value, zpow_sub₀ (by norm_num), zpow_natCast]
      field_simp
    rw [same]
  cases spells with
  | positive magnitude exponent => exact read false magnitude exponent
  | negative magnitude exponent => exact read true magnitude exponent

end Numeral

theorem SpellsNumber.unique {text : List Char} {p q : ℚ} (first : SpellsNumber text p)
    (second : SpellsNumber text q) : p = q :=
  (Numeral.ofText_of_spells first).2.symm.trans (Numeral.ofText_of_spells second).2

/-! Plain form -/

/-- A number in plain form: whole digits without a needless zero in front, fraction digits without
a zero at the end, and no sign on zero. -/
structure PlainNumber where
  negative : Bool
  whole : List Char
  fraction : List Char
  numeral : Text.isNumeral whole = true
  leading : whole = ['0'] ∨ whole.head? ≠ some '0'
  digits : ∀ c ∈ fraction, c.isDigit = true
  trailing : fraction.getLast? ≠ some '0'
  unsigned_zero : negative = true → ¬(whole = ['0'] ∧ fraction = [])

namespace PlainNumber

def digitsText (p : PlainNumber) : List Char :=
  if p.fraction.isEmpty then p.whole else p.whole ++ '.' :: p.fraction

def text (p : PlainNumber) : List Char :=
  if p.negative then '-' :: p.digitsText else p.digitsText

def magnitude (p : PlainNumber) : ℚ :=
  Text.value p.whole + Text.value p.fraction / 10 ^ p.fraction.length

def toRat (p : PlainNumber) : ℚ :=
  if p.negative then -p.magnitude else p.magnitude

theorem spellsMagnitude (p : PlainNumber) : SpellsMagnitude p.digitsText p.magnitude := by
  unfold digitsText magnitude
  cases part : p.fraction with
  | nil => simpa using SpellsMagnitude.whole p.numeral
  | cons c rest =>
    rw [← part]
    have numeral : Text.isNumeral p.fraction = true :=
      Text.isNumeral_iff.mpr ⟨by simp [part], p.digits⟩
    simpa [part] using SpellsMagnitude.pointed p.numeral numeral

theorem spells_text (p : PlainNumber) : SpellsNumber p.text p.toRat := by
  unfold text toRat
  have unsigned := SpellsNumber.positive p.spellsMagnitude .none
  have signed := SpellsNumber.negative p.spellsMagnitude .none
  rw [List.append_nil, zpow_zero, mul_one] at unsigned signed
  cases p.negative with
  | false => exact unsigned
  | true => exact signed

def IsZero (p : PlainNumber) : Prop :=
  p.whole = ['0'] ∧ p.fraction = []

theorem digitsText_eq_zero_iff (p : PlainNumber) : p.digitsText = ['0'] ↔ p.IsZero := by
  unfold digitsText IsZero
  cases part : p.fraction with
  | nil => simp
  | cons c rest =>
    have nonempty := (Text.isNumeral_iff.mp p.numeral).1
    simp only [List.isEmpty_cons, Bool.false_eq_true, if_false, reduceCtorEq, and_false, iff_false]
    intro single
    have lengths := congrArg List.length single
    rw [List.length_append, List.length_cons, List.length_cons] at lengths
    simp only [List.length_singleton] at lengths
    omega

/-! One plain form for a number -/

theorem value_whole_pos (p : PlainNumber) (nonzero : p.whole ≠ ['0']) :
    0 < Text.value p.whole := by
  obtain ⟨nonempty, all⟩ := Text.isNumeral_iff.mp p.numeral
  exact Text.value_pos all nonempty (p.leading.resolve_left nonzero)

theorem value_fraction_mod_ten (p : PlainNumber) (nonempty : p.fraction ≠ []) :
    Text.value p.fraction % 10 ≠ 0 := by
  obtain ⟨front, c, split⟩ := List.eq_nil_or_concat p.fraction |>.resolve_left nonempty
  have digit : c.isDigit = true := p.digits c (by simp [split])
  have nonzero : Text.digitValue c ≠ 0 :=
    Text.digitValue_ne_zero digit fun zero => p.trailing (by simp [split, zero])
  have small := Text.digitValue_lt digit
  rw [split, List.concat_eq_append, Text.value_append, Text.value_singleton]
  simp only [List.length_singleton, pow_one]
  omega

theorem magnitude_nonneg (p : PlainNumber) : 0 ≤ p.magnitude := by
  unfold magnitude
  positivity

theorem magnitude_of_isZero {p : PlainNumber} (zero : p.IsZero) : p.magnitude = 0 := by
  unfold magnitude
  rw [zero.1, zero.2]
  simp [Text.value_singleton, Text.digitValue]

theorem magnitude_pos {p : PlainNumber} (nonzero : ¬p.IsZero) : 0 < p.magnitude := by
  unfold magnitude
  rcases not_and_or.mp nonzero with whole | fraction
  · have pos := p.value_whole_pos whole
    positivity
  · have pos : 0 < Text.value p.fraction := Nat.pos_of_ne_zero fun zero =>
      p.value_fraction_mod_ten fraction (by rw [zero])
    positivity

theorem fraction_lt_one (p : PlainNumber) :
    (Text.value p.fraction : ℚ) / 10 ^ p.fraction.length < 1 := by
  rw [div_lt_one (by positivity)]
  exact_mod_cast Text.value_lt p.digits

theorem floor_magnitude (p : PlainNumber) : ⌊p.magnitude⌋₊ = Text.value p.whole := by
  rw [Nat.floor_eq_iff p.magnitude_nonneg]
  have small := p.fraction_lt_one
  have nonneg : (0 : ℚ) ≤ Text.value p.fraction / 10 ^ p.fraction.length := by positivity
  unfold magnitude
  constructor
  · linarith
  · linarith

theorem length_fraction_le {p r : PlainNumber}
    (same : Text.value p.fraction * 10 ^ r.fraction.length =
      Text.value r.fraction * 10 ^ p.fraction.length) :
    r.fraction.length ≤ p.fraction.length := by
  by_contra longer
  obtain ⟨more, lengths⟩ := Nat.exists_eq_add_of_lt (not_le.mp longer)
  have nonempty : r.fraction ≠ [] := by
    intro empty
    simp [empty] at lengths
  have shifted : Text.value p.fraction * 10 ^ (more + 1) = Text.value r.fraction := by
    have pos : 0 < 10 ^ p.fraction.length := Nat.pow_pos (by decide)
    apply Nat.eq_of_mul_eq_mul_right pos
    rw [← same, lengths, Nat.mul_assoc, ← pow_add]
    congr 2
    omega
  -- a longer fraction of the same value would end in a zero
  apply r.value_fraction_mod_ten nonempty
  rw [← shifted, pow_succ, ← Nat.mul_assoc, Nat.mul_mod_left]

theorem eq_of_magnitude_eq {p r : PlainNumber} (same : p.magnitude = r.magnitude) :
    p.whole = r.whole ∧ p.fraction = r.fraction := by
  have wholes : Text.value p.whole = Text.value r.whole := by
    rw [← p.floor_magnitude, same, r.floor_magnitude]
  -- the whole parts are the floors, so what is left are the fractions, and neither is longer
  have fractions : Text.value p.fraction * 10 ^ r.fraction.length =
      Text.value r.fraction * 10 ^ p.fraction.length := by
    unfold magnitude at same
    rw [wholes, add_right_inj, div_eq_div_iff (by positivity) (by positivity)] at same
    exact_mod_cast same
  have lengths : p.fraction.length = r.fraction.length :=
    le_antisymm (length_fraction_le fractions.symm) (length_fraction_le fractions)
  constructor
  · rw [← Text.digits_value p.numeral p.leading, wholes, Text.digits_value r.numeral r.leading]
  · apply Text.eq_of_value_eq p.digits r.digits lengths
    rw [lengths] at fractions
    exact Nat.eq_of_mul_eq_mul_right (Nat.pow_pos (by decide)) fractions

theorem toRat_neg_iff (p : PlainNumber) : p.toRat < 0 ↔ p.negative = true := by
  have nonneg := p.magnitude_nonneg
  unfold toRat
  cases sign : p.negative with
  | false => simp [nonneg]
  | true => simp [magnitude_pos (p.unsigned_zero sign)]

/-- A number has just one plain form. -/
theorem toRat_inj {p r : PlainNumber} (same : p.toRat = r.toRat) : p = r := by
  have signs : p.negative = r.negative := by
    rw [Bool.eq_iff_iff, ← p.toRat_neg_iff, ← r.toRat_neg_iff, same]
  have magnitudes : p.magnitude = r.magnitude := by
    unfold toRat at same
    rw [signs] at same
    split at same
    · exact neg_injective same
    · exact same
  obtain ⟨wholes, fractions⟩ := eq_of_magnitude_eq magnitudes
  cases p
  cases r
  simp_all only

end PlainNumber

namespace Numeral

/-! The plain form of a numeral -/

theorem value_dropWhile_zero (digits : List Char) :
    Text.value (digits.dropWhile (· = '0')) = Text.value digits := by
  induction digits with
  | nil => rfl
  | cons c rest ih =>
    by_cases zero : c = '0'
    · rw [List.dropWhile_cons_of_pos (by simpa using zero), ih, Text.value_cons, zero]
      simp [Text.digitValue]
    · rw [List.dropWhile_cons_of_neg (by simpa using zero)]

theorem value_stripLeading (digits : List Char) :
    Text.value (stripLeading digits) = Text.value digits := by
  rw [← value_dropWhile_zero digits]
  unfold stripLeading
  split
  next empty => rw [empty]; rfl
  next => rfl

theorem isNumeral_stripLeading {digits : List Char} (all : ∀ c ∈ digits, c.isDigit = true) :
    Text.isNumeral (stripLeading digits) = true := by
  unfold stripLeading
  split
  · rfl
  next nonempty =>
    refine Text.isNumeral_iff.mpr ⟨nonempty, fun c member => all c ?_⟩
    exact (List.dropWhile_sublist _).subset member

theorem stripLeading_leading (digits : List Char) :
    stripLeading digits = ['0'] ∨ (stripLeading digits).head? ≠ some '0' := by
  unfold stripLeading
  split
  · exact .inl rfl
  · refine .inr fun zero => ?_
    have stops := List.head?_dropWhile_not (fun c => decide (c = '0')) digits
    simp [zero] at stops

theorem exists_stripTrailing_append (digits : List Char) :
    ∃ count, digits = stripTrailing digits ++ List.replicate count '0' := by
  refine ⟨(digits.reverse.takeWhile (· = '0')).length, ?_⟩
  have zeros : digits.reverse.takeWhile (· = '0') =
      List.replicate (digits.reverse.takeWhile (· = '0')).length '0' := by
    refine List.eq_replicate_iff.mpr ⟨rfl, fun c member => ?_⟩
    simpa using List.mem_takeWhile_imp member
  have split := List.takeWhile_append_dropWhile (p := (· = '0')) (l := digits.reverse)
  have reversed := congrArg List.reverse split
  rw [List.reverse_append, List.reverse_reverse, zeros, List.reverse_replicate] at reversed
  exact reversed.symm

theorem stripTrailing_trailing (digits : List Char) :
    (stripTrailing digits).getLast? ≠ some '0' := by
  unfold stripTrailing
  rw [List.getLast?_reverse]
  intro zero
  have stops := List.head?_dropWhile_not (fun c => decide (c = '0')) digits.reverse
  simp [zero] at stops

theorem value_stripTrailing (digits : List Char) :
    (Text.value (stripTrailing digits) : ℚ) / 10 ^ (stripTrailing digits).length =
      Text.value digits / 10 ^ digits.length := by
  obtain ⟨count, split⟩ := exists_stripTrailing_append digits
  generalize stripTrailing digits = stripped at split
  rw [split, Text.value_append, Text.value_replicate_zero, List.length_append,
    List.length_replicate, pow_add]
  push_cast
  field_simp
  ring

theorem value_split (digits : List Char) (point : Int) :
    (Text.value (digits.take point.toNat ++
          List.replicate (point.toNat - digits.length) '0') : ℚ) +
        Text.value (List.replicate (-point).toNat '0' ++ digits.drop point.toNat) /
          10 ^ (List.replicate (-point).toNat '0' ++ digits.drop point.toNat).length =
      Text.value digits * 10 ^ (point - digits.length) := by
  rcases le_or_gt point 0 with before | inside
  · obtain ⟨zeros, rfl⟩ := Int.exists_eq_neg_ofNat before
    have power : -(zeros : Int) - digits.length = -((zeros + digits.length : Nat) : Int) := by
      omega
    rw [power, zpow_neg, zpow_natCast]
    simp [Text.value_append, div_eq_mul_inv]
  · obtain ⟨place, rfl⟩ := Int.eq_ofNat_of_zero_le inside.le
    have no_zeros : (-(place : Int)).toNat = 0 := by omega
    rw [no_zeros, Int.toNat_natCast, List.replicate_zero, List.nil_append, List.length_drop]
    rcases le_or_gt digits.length place with behind | within
    · obtain ⟨zeros, rfl⟩ := Nat.exists_eq_add_of_le behind
      have power : ((digits.length + zeros : Nat) : Int) - digits.length = zeros := by omega
      rw [List.take_of_length_le behind, List.drop_eq_nil_of_le behind, power, zpow_natCast]
      simp [Text.value_append]
    · have power : (place : Int) - digits.length = -((digits.length - place : Nat) : Int) := by
        omega
      have whole := Text.value_append (digits.take place) (digits.drop place)
      rw [List.take_append_drop, List.length_drop] at whole
      rw [Nat.sub_eq_zero_of_le within.le, List.replicate_zero, List.append_nil, power, zpow_neg,
        zpow_natCast, whole]
      push_cast
      field_simp

/-- Carrying out the exponent moves the point and nothing else: the digits before and behind it
denote what the numeral does. -/
theorem shifted_value (n : Numeral) :
    (Text.value n.shifted.1 : ℚ) + Text.value n.shifted.2 / 10 ^ n.shifted.2.length =
      n.magnitude := by
  have moved := value_split (n.whole ++ n.fraction) (n.whole.length + n.exponent)
  have power : (n.whole.length + n.exponent : Int) - (n.whole ++ n.fraction).length =
      n.exponent - n.fraction.length := by
    rw [List.length_append]
    push_cast
    ring
  rw [power] at moved
  exact moved

theorem isDigit_shifted {n : Numeral} (decimal : n.IsDecimal) :
    (∀ c ∈ n.shifted.1, c.isDigit = true) ∧ ∀ c ∈ n.shifted.2, c.isDigit = true := by
  constructor
  · exact List.forall_mem_append.mpr
      ⟨fun c member => decimal c (List.mem_of_mem_take member), Text.isDigit_zeros _⟩
  · exact List.forall_mem_append.mpr
      ⟨Text.isDigit_zeros _, fun c member => decimal c (List.mem_of_mem_drop member)⟩

def plainNumber (n : Numeral) (decimal : n.IsDecimal) : PlainNumber where
  negative := n.negative &&
    !decide (stripLeading n.shifted.1 = ['0'] ∧ stripTrailing n.shifted.2 = [])
  whole := stripLeading n.shifted.1
  fraction := stripTrailing n.shifted.2
  numeral := isNumeral_stripLeading (isDigit_shifted decimal).1
  leading := stripLeading_leading n.shifted.1
  digits c member := by
    obtain ⟨count, split⟩ := exists_stripTrailing_append n.shifted.2
    refine (isDigit_shifted decimal).2 c ?_
    rw [split]
    exact List.mem_append_left _ member
  trailing := stripTrailing_trailing n.shifted.2
  unsigned_zero signed := by
    rw [Bool.and_eq_true, Bool.not_eq_true', decide_eq_false_iff_not] at signed
    exact signed.2

theorem negative_plainNumber {n : Numeral} (decimal : n.IsDecimal) :
    (n.plainNumber decimal).negative = true ↔
      n.negative = true ∧ ¬(n.plainNumber decimal).IsZero := by
  unfold plainNumber
  rw [Bool.and_eq_true, Bool.not_eq_true', decide_eq_false_iff_not]
  rfl

theorem text_plainNumber {n : Numeral} (decimal : n.IsDecimal) :
    (n.plainNumber decimal).text = n.plain := by
  have plain_eq : n.plain =
      if n.negative = true ∧ (n.plainNumber decimal).digitsText ≠ ['0'] then
        '-' :: (n.plainNumber decimal).digitsText
      else (n.plainNumber decimal).digitsText := rfl
  have sign : (n.plainNumber decimal).negative = true ↔
      n.negative = true ∧ (n.plainNumber decimal).digitsText ≠ ['0'] := by
    rw [negative_plainNumber, ne_eq, PlainNumber.digitsText_eq_zero_iff]
  rw [plain_eq]
  exact if_congr sign rfl rfl

theorem toRat_plainNumber {n : Numeral} (decimal : n.IsDecimal) :
    (n.plainNumber decimal).toRat = n.toRat := by
  have same : (n.plainNumber decimal).magnitude = n.magnitude := by
    rw [← shifted_value, ← value_stripTrailing, ← value_stripLeading]
    rfl
  rw [toRat_eq, ← same]
  unfold PlainNumber.toRat
  by_cases zero : (n.plainNumber decimal).IsZero
  · rw [PlainNumber.magnitude_of_isZero zero, neg_zero, ite_self, ite_self]
  · exact if_congr ((negative_plainNumber decimal).trans (and_iff_left zero)) rfl rfl

end Numeral

/-! The plain form of an integer -/

theorem Text.digits_leading (n : Nat) :
    Text.digits n = ['0'] ∨ (Text.digits n).head? ≠ some '0' := by
  have stripped := Numeral.stripLeading_leading (Text.digits n)
  have numeral := Numeral.isNumeral_stripLeading fun c member =>
    Text.isDigit_of_mem_digits (n := n) (c := c) member
  have same := Text.digits_value numeral stripped
  rw [Numeral.value_stripLeading, Text.value_digits] at same
  rw [← same] at stripped
  exact stripped

namespace PlainNumber

def ofInt (k : Int) : PlainNumber where
  negative := decide (k < 0)
  whole := Text.digits k.natAbs
  fraction := []
  numeral := Text.isNumeral_digits k.natAbs
  leading := Text.digits_leading k.natAbs
  digits := by simp
  trailing := by simp
  unsigned_zero negative zero := by
    have value := congrArg Text.value zero.1
    rw [Text.value_digits] at value
    have pos := Int.natAbs_pos.mpr (of_decide_eq_true negative).ne
    exact pos.ne' value

theorem text_ofInt (k : Int) : (ofInt k).text = Text.signedDigits k := by
  unfold text Text.signedDigits
  exact if_congr decide_eq_true_iff rfl rfl

theorem toRat_ofInt (k : Int) : (ofInt k).toRat = k := by
  have size : (ofInt k).magnitude = |k| := by
    unfold magnitude ofInt
    simp
  have sign : (ofInt k).negative = true ↔ k < 0 := decide_eq_true_iff
  unfold toRat
  rw [size]
  by_cases negative : k < 0
  · rw [if_pos (sign.mpr negative), abs_of_neg negative, Int.cast_neg, neg_neg]
  · rw [if_neg (sign.not.mpr negative), abs_of_nonneg (not_lt.mp negative)]

theorem spells_signedDigits (k : Int) : SpellsNumber (Text.signedDigits k) k := by
  have spelled := (ofInt k).spells_text
  rwa [text_ofInt, toRat_ofInt] at spelled

end PlainNumber

/-! Plain text -/

section PlainText

variable {text other : List Char} {p q : ℚ}

theorem exists_plainText_eq (spells : SpellsNumber text q) :
    ∃ number : PlainNumber, plainText text = number.text ∧ number.toRat = q := by
  obtain ⟨decimal, value⟩ := Numeral.ofText_of_spells spells
  exact ⟨(Numeral.ofText text).plainNumber decimal, (Numeral.text_plainNumber decimal).symm,
    (Numeral.toRat_plainNumber decimal).trans value⟩

theorem PlainNumber.plainText_text (number : PlainNumber) :
    plainText number.text = number.text := by
  obtain ⟨other, same, value⟩ := exists_plainText_eq number.spells_text
  rw [same, toRat_inj value]

/-- Texts have one plain form exactly if they spell the same number. -/
theorem plainText_eq_iff (spells : SpellsNumber text p) (spellsOther : SpellsNumber other q) :
    plainText text = plainText other ↔ p = q := by
  obtain ⟨number, plain, rfl⟩ := exists_plainText_eq spells
  obtain ⟨otherNumber, otherPlain, rfl⟩ := exists_plainText_eq spellsOther
  rw [plain, otherPlain]
  constructor
  · intro same
    have spelled := number.spells_text
    rw [same] at spelled
    exact spelled.unique otherNumber.spells_text
  · intro same
    rw [PlainNumber.toRat_inj same]

end PlainText

end DotPath
