import DotPath.Reading.Integer
import Mathlib.Algebra.Order.Ring.Int

/-!
Integers read exactly.  A node denotes an integer if it is a text that spells one, or a number that
is equal to one; and every integer type reads just the integers in its range from the nodes that
denote them.  The wide integers in between leave none of these out.
-/

set_option autoImplicit false
set_option relaxedAutoImplicit false

namespace DotPath

/-! Whole numbers -/

private theorem mkRat_eq_intCast_iff {numerator k : Int} {denominator : Nat}
    (nonzero : denominator ≠ 0) :
    mkRat numerator denominator = k ↔ numerator = k * denominator := by
  rw [← Rat.mkRat_one k, Rat.mkRat_eq_iff nonzero Nat.one_ne_zero, Int.natCast_one, Int.mul_one]

namespace Binary.Finite

variable {f : Format} {x : Finite f} {k : Int}

private theorem ratio_snd_ne_zero (x : Finite f) : x.ratio.2 ≠ 0 :=
  (Nat.two_pow_pos _).ne'

private theorem toRat_eq_intCast_iff :
    x.toRat = k ↔ (x.ratio.1 : Int) = (if x.negative then -k else k) * x.ratio.2 := by
  have nonzero := x.ratio_snd_ne_zero
  unfold toRat
  cases x.negative with
  | false => exact mkRat_eq_intCast_iff nonzero
  | true =>
    have negated : -mkRat x.ratio.1 x.ratio.2 = k ↔ -(x.ratio.1 : Int) = k * x.ratio.2 := by
      rw [Rat.neg_mkRat]
      exact mkRat_eq_intCast_iff nonzero
    simp only [if_true, negated, Int.neg_mul]
    omega

theorem toInt?_eq_some_iff : x.toInt? = some k ↔ x.toRat = k := by
  have nonzero := x.ratio_snd_ne_zero
  have pos : (x.ratio.2 : Int) ≠ 0 := Int.natCast_ne_zero.mpr nonzero
  rw [toRat_eq_intCast_iff]
  unfold toInt?
  by_cases whole : x.ratio.1 % x.ratio.2 = 0
  · obtain ⟨quotient, multiple⟩ := Nat.dvd_of_mod_eq_zero whole
    have divided : x.ratio.1 / x.ratio.2 = quotient := by
      rw [multiple, Nat.mul_div_cancel_left quotient (Nat.pos_of_ne_zero nonzero)]
    have exact : (x.ratio.1 : Int) = quotient * x.ratio.2 := by
      rw [multiple, Int.natCast_mul, Int.mul_comm]
    simp only [whole, if_true, divided, exact, Int.mul_eq_mul_right_iff pos, Option.some.injEq]
    split <;> omega
  · simp only [whole, if_false, reduceCtorEq, false_iff]
    intro multiple
    have divides : (x.ratio.2 : Int) ∣ x.ratio.1 := ⟨_, multiple.trans (Int.mul_comm _ _)⟩
    exact whole (Nat.mod_eq_zero_of_dvd (Int.natCast_dvd_natCast.mp divides))

theorem toInt?_eq_none_iff : x.toInt? = none ↔ ∀ k : Int, x.toRat ≠ k := by
  simp only [Option.eq_none_iff_forall_ne_some, ne_eq, toInt?_eq_some_iff]

end Binary.Finite

def Json.Number.toRat : Json.Number → Rat
  | .integer k _ => k
  | .float x => x.toRat

/-! Wide integers -/

/-- The wide integers, which have 128 bits. -/
def IsWide (k : Int) : Prop :=
  -2 ^ (127 : Nat) ≤ k ∧ k < 2 ^ (127 : Nat)

instance (k : Int) : Decidable (IsWide k) :=
  inferInstanceAs (Decidable (_ ∧ _))

theorem IntegerType.Holds.isWide {type : IntegerType} {k : Int} (holds : type.Holds k) :
    IsWide k := by
  unfold Holds at holds
  unfold IsWide
  cases type with (simp only [least, greatest, isSigned, width] at holds; omega)

theorem Json.IsExact.isWide {k : Int} (exact : Json.IsExact k) : IsWide k := by
  unfold Json.IsExact at exact
  unfold IsWide
  omega

theorem isWide_iff_le_wideBound (magnitude : Nat) (negative : Bool) :
    IsWide (if negative then -(magnitude : Int) else magnitude) ↔
      magnitude ≤ wideBound negative := by
  unfold IsWide wideBound
  cases negative with
  | false =>
    simp only [Bool.false_eq_true, if_false]
    omega
  | true =>
    simp only [if_true]
    omega

/-! Texts -/

private theorem le_ofDigitChars (text : List Char) (read : Nat) :
    read ≤ Nat.ofDigitChars 10 text read := by
  rw [Nat.ofDigitChars_eq_ofDigitChars_zero]
  have scaled : read ≤ 10 ^ text.length * read :=
    Nat.le_mul_of_pos_left read (Nat.pow_pos (by decide))
  exact Nat.le_add_right_of_le scaled

/-- The bound is held against every beginning of the digits, which is no more than to hold it
against them all, as the number read never shrinks. -/
theorem readMagnitude_eq_ok_iff {bound read n : Nat} {text : List Char} (fits : read ≤ bound) :
    readMagnitude bound read text = .ok n ↔
      (∀ c ∈ text, c.isDigit = true) ∧ Nat.ofDigitChars 10 text read = n ∧ n ≤ bound := by
  induction text generalizing read with
  | nil =>
    simp only [readMagnitude, Except.ok.injEq, Nat.ofDigitChars_nil]
    constructor
    · rintro rfl
      exact ⟨List.forall_mem_nil _, rfl, fits⟩
    · rintro ⟨-, same, -⟩
      exact same
  | cons c rest ih =>
    have value : Nat.ofDigitChars 10 (c :: rest) read =
        Nat.ofDigitChars 10 rest (10 * read + Text.digitValue c) := Nat.ofDigitChars_cons
    simp only [readMagnitude, List.forall_mem_cons, value]
    by_cases digit : c.isDigit = true
    · by_cases small : 10 * read + Text.digitValue c ≤ bound
      · simp only [digit, small, if_true, true_and]
        exact ih small
      · -- whatever digits follow, the number has left the bound for good
        have grows := le_ofDigitChars rest (10 * read + Text.digitValue c)
        simp only [digit, small, if_true, if_false, reduceCtorEq, false_iff]
        rintro ⟨-, rfl, bounded⟩
        omega
    · simp [digit]

theorem readUnsigned_eq_ok_iff {negative : Bool} {digits : List Char} {k : Int} :
    readUnsigned negative digits = .ok k ↔
      Text.isNumeral digits = true ∧
        k = (if negative then -(Text.value digits : Int) else Text.value digits) ∧ IsWide k := by
  unfold readUnsigned
  cases digits with
  | nil => simp [Text.isNumeral]
  | cons c rest =>
    have numeral : Text.isNumeral (c :: rest) = true ↔ ∀ d ∈ c :: rest, d.isDigit = true := by
      simp only [Text.isNumeral, List.isEmpty_cons, Bool.not_false, Bool.true_and, List.all_eq_true]
    rw [if_neg (by simp), numeral]
    constructor
    · intro read
      cases magnitude : readMagnitude (wideBound negative) 0 (c :: rest) with
      | error fault =>
        rw [magnitude] at read
        cases read
      | ok n =>
        rw [magnitude] at read
        cases read
        obtain ⟨all, rfl, bounded⟩ := (readMagnitude_eq_ok_iff (Nat.zero_le _)).mp magnitude
        exact ⟨all, rfl, (isWide_iff_le_wideBound _ negative).mpr bounded⟩
    · rintro ⟨all, rfl, wide⟩
      have bounded := (isWide_iff_le_wideBound _ negative).mp wide
      rw [(readMagnitude_eq_ok_iff (Nat.zero_le _)).mpr ⟨all, rfl, bounded⟩]
      rfl

/-- Texts that spell an integer: decimal digits, as many as one likes, with an optional sign. -/
inductive SpellsInteger : List Char → Int → Prop
  | bare {digits : List Char} (numeral : Text.isNumeral digits = true) :
      SpellsInteger digits (Text.value digits)
  | plus {digits : List Char} (numeral : Text.isNumeral digits = true) :
      SpellsInteger ('+' :: digits) (Text.value digits)
  | minus {digits : List Char} (numeral : Text.isNumeral digits = true) :
      SpellsInteger ('-' :: digits) (-(Text.value digits : Int))

private theorem not_isNumeral_cons {c : Char} (not_digit : c.isDigit = false) (rest : List Char) :
    ¬Text.isNumeral (c :: rest) = true := by
  simp [Text.isNumeral, not_digit]

theorem spellsInteger_minus_iff {digits : List Char} {k : Int} :
    SpellsInteger ('-' :: digits) k ↔
      Text.isNumeral digits = true ∧ k = -(Text.value digits : Int) := by
  constructor
  · intro spells
    cases spells with
    | bare numeral => exact absurd numeral (not_isNumeral_cons rfl digits)
    | minus numeral => exact ⟨numeral, rfl⟩
  · rintro ⟨numeral, rfl⟩
    exact .minus numeral

theorem spellsInteger_plus_iff {digits : List Char} {k : Int} :
    SpellsInteger ('+' :: digits) k ↔ Text.isNumeral digits = true ∧ k = Text.value digits := by
  constructor
  · intro spells
    cases spells with
    | bare numeral => exact absurd numeral (not_isNumeral_cons rfl digits)
    | plus numeral => exact ⟨numeral, rfl⟩
  · rintro ⟨numeral, rfl⟩
    exact .plus numeral

theorem spellsInteger_bare_iff {text : List Char} {k : Int}
    (no_minus : ∀ rest, text ≠ '-' :: rest) (no_plus : ∀ rest, text ≠ '+' :: rest) :
    SpellsInteger text k ↔ Text.isNumeral text = true ∧ k = Text.value text := by
  constructor
  · intro spells
    cases spells with
    | bare numeral => exact ⟨numeral, rfl⟩
    | plus _ => exact absurd rfl (no_plus _)
    | minus _ => exact absurd rfl (no_minus _)
  · rintro ⟨numeral, rfl⟩
    exact .bare numeral

theorem readWide_eq_ok_iff {text : List Char} {k : Int} :
    readWide text = .ok k ↔ SpellsInteger text k ∧ IsWide k := by
  unfold readWide
  split
  next =>
    have none : ¬SpellsInteger [] k := by
      intro spells
      cases spells with
      | bare numeral => cases numeral
    simp [none]
  next digits => rw [readUnsigned_eq_ok_iff, spellsInteger_minus_iff, and_assoc, if_pos rfl]
  next digits => rw [readUnsigned_eq_ok_iff, spellsInteger_plus_iff, and_assoc]; simp
  next no_minus no_plus =>
    rw [readUnsigned_eq_ok_iff, spellsInteger_bare_iff no_minus no_plus, and_assoc]
    simp

theorem SpellsInteger.unique {text : List Char} {k l : Int} (first : SpellsInteger text k)
    (second : SpellsInteger text l) : k = l := by
  cases second with
  | minus _ => exact (spellsInteger_minus_iff.mp first).2
  | plus _ => exact (spellsInteger_plus_iff.mp first).2
  | bare numeral =>
    have no_sign {sign : Char} (not_digit : sign.isDigit = false) (rest : List Char) :
        text ≠ sign :: rest := by
      rintro rfl
      exact not_isNumeral_cons not_digit rest numeral
    exact ((spellsInteger_bare_iff (no_sign rfl) (no_sign rfl)).mp first).2

theorem SpellsInteger.signedDigits (k : Int) : SpellsInteger (Text.signedDigits k) k := by
  have numeral := Text.isNumeral_digits k.natAbs
  unfold Text.signedDigits
  split
  next negative =>
    refine spellsInteger_minus_iff.mpr ⟨numeral, ?_⟩
    rw [Text.value_digits]
    omega
  next nonnegative =>
    have spelled := SpellsInteger.bare numeral
    rw [Text.value_digits, Int.natAbs_of_nonneg (not_lt.mp nonnegative)] at spelled
    exact spelled

/-! Nodes -/

/-- Nodes that denote an integer: texts that spell it, with blank space around them or not, and
numbers that are equal to it. -/
inductive Denotes : Located → Int → Prop
  | text {text : String} {k : Int} (spells : SpellsInteger (Text.trim text.toList) k) :
      Denotes (.found (.string text)) k
  | number {number : Json.Number} {k : Int} (equal : number.toRat = k) :
      Denotes (.found (.number number)) k

theorem Denotes.unique {here : Located} {k l : Int} (first : Denotes here k)
    (second : Denotes here l) : k = l := by
  cases first with
  | text spells =>
    cases second with
    | text other => exact spells.unique other
  | number equal =>
    cases second with
    | number other => exact Rat.intCast_inj.mp (equal.symm.trans other)

theorem trim_signedDigits (k : Int) : Text.trim (Text.signedDigits k) = Text.signedDigits k := by
  apply Text.trim_of_not_blank
  have digits : ∀ c ∈ Text.digits k.natAbs, Text.isBlank c = false := fun c member =>
    Text.isBlank_eq_false_of_isDigit (Text.isDigit_of_mem_digits member)
  unfold Text.signedDigits
  split
  · exact List.forall_mem_cons.mpr ⟨by decide, digits⟩
  · exact digits

theorem Denotes.digits (k : Int) :
    Denotes (.found (.string (String.ofList (Text.signedDigits k)))) k := by
  refine .text ?_
  rw [String.toList_ofList, trim_signedDigits]
  exact .signedDigits k

namespace Located

variable {here : Located} {target : ScalarType} {k : Int}

private theorem outcome_wideOfText_eq_ok_iff {text : String} :
    (wideOfText target text).outcome = .ok k ↔
      SpellsInteger (Text.trim text.toList) k ∧ IsWide k := by
  rw [← readWide_eq_ok_iff]
  simp only [wideOfText]
  cases readWide (Text.trim text.toList) with
  | ok wide => simp
  | error fault => cases fault <;> simp

theorem outcome_wideOfNumber_of_not_whole {number : Json.Number}
    (not_whole : ∀ k : Int, number.toRat ≠ k) :
    (wideOfNumber target number).outcome = .error (.notConvertible target .number) := by
  cases number with
  | integer k exact => exact absurd rfl (not_whole k)
  | float x =>
    have none : x.toInt? = none := Binary.Finite.toInt?_eq_none_iff.mpr not_whole
    simp [wideOfNumber, none]

theorem outcome_wideOfNumber_of_whole {number : Json.Number} (whole : number.toRat = k) :
    (wideOfNumber target number).outcome =
      if IsWide k then .ok k else .error (.outOfRange target (String.ofList number.text)) := by
  cases number with
  | integer l exact =>
    obtain rfl : l = k := Rat.intCast_inj.mp whole
    simp [wideOfNumber, exact.isWide]
  | float x =>
    have some : x.toInt? = some k := Binary.Finite.toInt?_eq_some_iff.mpr whole
    simp only [wideOfNumber, some]
    by_cases wide : IsWide k
    · have bounds : -2 ^ (127 : Nat) ≤ k ∧ k < 2 ^ (127 : Nat) := wide
      rw [if_pos wide, if_pos bounds]
      rfl
    · have bounds : ¬(-2 ^ (127 : Nat) ≤ k ∧ k < 2 ^ (127 : Nat)) := wide
      rw [if_neg wide, if_neg bounds]
      rfl

private theorem outcome_wideOfNumber_eq_ok_iff {number : Json.Number} :
    (wideOfNumber target number).outcome = .ok k ↔ number.toRat = k ∧ IsWide k := by
  by_cases whole : ∃ l : Int, number.toRat = l
  · obtain ⟨l, equal⟩ := whole
    rw [outcome_wideOfNumber_of_whole equal, equal, Rat.intCast_inj]
    split
    · simp only [Except.ok.injEq]
      constructor
      · rintro rfl
        exact ⟨rfl, by assumption⟩
      · exact And.left
    · simp only [reduceCtorEq, false_iff]
      rintro ⟨rfl, wide⟩
      contradiction
  · have not_whole := not_exists.mp whole
    rw [outcome_wideOfNumber_of_not_whole not_whole]
    simp [not_whole k]

theorem outcome_toWide_eq_ok_iff :
    (here.toWide target).outcome = .ok k ↔ Denotes here k ∧ IsWide k := by
  have none (other : Located) (refused : other.toWide target = .notConvertible target other.kind)
      (not_denotes : ¬Denotes other k) :
      (other.toWide target).outcome = .ok k ↔ Denotes other k ∧ IsWide k := by
    simp [refused, not_denotes]
  cases here with
  | missing => exact none _ rfl nofun
  | found node =>
    cases node with
    | string text =>
      rw [toWide, outcome_wideOfText_eq_ok_iff]
      refine and_congr_left fun _ => ⟨.text, ?_⟩
      rintro (spells | _)
      exact spells
    | number number =>
      rw [toWide, outcome_wideOfNumber_eq_ok_iff]
      refine and_congr_left fun _ => ⟨.number, ?_⟩
      rintro (_ | equal)
      exact equal
    | _ => exact none _ rfl nofun

theorem outcome_toInteger (type : IntegerType) (here : Located) :
    (here.toInteger type).outcome =
      (here.toWide (.integer type)).outcome.bind fun k =>
        if type.Holds k then .ok k
        else .error (.outOfRange (.integer type) (String.ofList (Text.signedDigits k))) := by
  unfold toInteger
  rw [Logged.outcome_bind]
  congr
  funext k
  split
  · rfl
  · rfl

theorem outcome_toInteger_eq_ok_iff {type : IntegerType} :
    (here.toInteger type).outcome = .ok k ↔ type.Holds k ∧ Denotes here k := by
  unfold toInteger
  rw [Logged.outcome_bind_eq_ok_iff]
  constructor
  · rintro ⟨l, wide, narrowed⟩
    have denotes := (outcome_toWide_eq_ok_iff.mp wide).1
    split at narrowed
    next holds =>
      cases narrowed
      exact ⟨holds, denotes⟩
    next => cases narrowed
  · rintro ⟨holds, denotes⟩
    refine ⟨k, outcome_toWide_eq_ok_iff.mpr ⟨denotes, holds.isWide⟩, ?_⟩
    rw [if_pos holds]
    rfl

theorem outcome_toInteger_of_not_whole (type : IntegerType) {number : Json.Number}
    (not_whole : ∀ k : Int, number.toRat ≠ k) :
    ((found (.number number)).toInteger type).outcome =
      .error (.notConvertible (.integer type) .number) := by
  rw [outcome_toInteger, toWide, outcome_wideOfNumber_of_not_whole not_whole]
  rfl

theorem outcome_toInteger_of_whole {type : IntegerType} {number : Json.Number}
    (whole : number.toRat = k) (beyond : ¬type.Holds k) :
    ((found (.number number)).toInteger type).outcome =
      .error (.outOfRange (.integer type)
        (String.ofList (if IsWide k then Text.signedDigits k else number.text))) := by
  rw [outcome_toInteger, toWide, outcome_wideOfNumber_of_whole whole]
  split
  · exact if_neg beyond
  · rfl

/-- An integer type reads from a node the integer that the node denotes, if it is in the range of
the type, and nothing else; so two types never read different integers.  A number is refused as no
integer exactly if it is not whole, and as out of range exactly if it is whole and out of range.
The wide integer in between is the integer denoted, and there is one for every integer of every
type. -/
theorem toInteger_exact (here : Located) :
    (∀ (type : IntegerType) (k : Int),
        (here.toInteger type).outcome = .ok k ↔ type.Holds k ∧ Denotes here k) ∧
      (∀ (type : IntegerType) (number : Json.Number) (failure : Failure),
        here = .found (.number number) → (here.toInteger type).outcome = .error failure →
          ((∃ target kind, failure = .notConvertible target kind) ↔
            ∀ k : Int, number.toRat ≠ k) ∧
          ((∃ target value, failure = .outOfRange target value) ↔
            ∃ k : Int, number.toRat = k ∧ ¬type.Holds k)) ∧
      (∀ (type other : IntegerType) (k l : Int), (here.toInteger type).outcome = .ok k →
        (here.toInteger other).outcome = .ok l → k = l) ∧
      (∀ (type : IntegerType) (k : Int),
        (here.toWide (.integer type)).outcome = .ok k ↔ Denotes here k ∧ IsWide k) ∧
      ∀ (type : IntegerType) (k : Int), type.Holds k → IsWide k := by
  refine ⟨fun type k => outcome_toInteger_eq_ok_iff, ?_, ?_,
    fun type k => outcome_toWide_eq_ok_iff, fun type k holds => holds.isWide⟩
  · rintro type number failure rfl fails
    by_cases whole : ∃ k : Int, number.toRat = k
    · obtain ⟨k, equal⟩ := whole
      have beyond : ¬type.Holds k := by
        intro holds
        rw [outcome_toInteger_eq_ok_iff.mpr ⟨holds, .number equal⟩] at fails
        cases fails
      rw [outcome_toInteger_of_whole equal beyond] at fails
      cases fails
      have not_fraction : ¬∀ l : Int, number.toRat ≠ l := fun none => none k equal
      have outside : ∃ l : Int, number.toRat = l ∧ ¬type.Holds l := ⟨k, equal, beyond⟩
      simp [not_fraction, outside]
    · have not_whole := not_exists.mp whole
      rw [outcome_toInteger_of_not_whole type not_whole] at fails
      cases fails
      simp [not_whole]
  · intro type other k l read readOther
    have denotes := (outcome_toInteger_eq_ok_iff.mp read).2
    exact denotes.unique (outcome_toInteger_eq_ok_iff.mp readOther).2

end Located

end DotPath
