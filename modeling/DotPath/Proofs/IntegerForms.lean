import DotPath.Proofs.EpochCounts
import DotPath.Proofs.WholeNumbers

/-!
Integers as numbers and as text.  What an integer type, a decimal or an epoch count makes of a node
depends on the integer that it denotes and not on the form of the node, so that the number of an
integer and the text of its digits are read alike.
-/

set_option autoImplicit false
set_option relaxedAutoImplicit false

namespace DotPath

open Calendar (DateTime ZonedDateTime)

namespace Located

variable {here there : Located} {k : Int}

/-- A node that denotes a wide integer is read as that integer, or refused with its digits. -/
theorem outcome_toInteger_of_denotes (type : IntegerType) (denotes : Denotes here k)
    (wide : IsWide k) :
    (here.toInteger type).outcome =
      if type.Holds k then .ok k
      else .error (.outOfRange (.integer type) (String.ofList (Text.signedDigits k))) := by
  rw [outcome_toInteger, outcome_toWide_eq_ok_iff.mpr ⟨denotes, wide⟩]
  rfl

theorem exists_toDecimal_integer (exact : Json.IsExact k) :
    ∃ d : Decimal, (found (.number (.integer k exact))).toDecimal.outcome = .ok d ∧
      (found (.string (String.ofList (Text.signedDigits k)))).toDecimal.outcome = .ok d ∧
      d.toRat = k := by
  have bounded : k.natAbs ≤ 79228162514264337593543950335 := by
    unfold Json.IsExact at exact
    omega
  have small : |(Json.Number.integer k exact).printed| ≤ 79228162514264337593543950335 := by
    rw [Json.Number.abs_printed_integer]
    exact_mod_cast bounded
  obtain ⟨d, of_number, of_text, rounded⟩ := exists_toDecimal_eq_ok small
  refine ⟨d, of_number, of_text, rounded.trans ?_⟩
  exact roundAway_eq_self (k := k * 10 ^ 28) (by push_cast; rfl)

theorem outcome_toTimes_eq_of_denotes (denotes : Denotes here k) (other : Denotes there k)
    (holds : IntegerType.i64.Holds k) (nonzero : k ≠ 0) :
    here.toDateTime.outcome = there.toDateTime.outcome ∧
      here.toZonedDateTime.outcome = there.toZonedDateTime.outcome := by
  rw [outcome_toDateTime_of_count holds nonzero denotes,
    outcome_toDateTime_of_count holds nonzero other,
    outcome_toZonedDateTime_of_count holds nonzero denotes,
    outcome_toZonedDateTime_of_count holds nonzero other]
  exact ⟨rfl, rfl⟩

theorem outcome_toTimes_of_denotes (denotes : Denotes here k)
    (holds : IntegerType.i64.Holds k) (nonzero : k ≠ 0) :
    let digits := String.ofList (Text.signedDigits k)
    (∃ time : DateTime, here.toDateTime.outcome = .ok time ∧
        here.toZonedDateTime.outcome = .ok (.ofUtc time)) ∨
      here.toDateTime.outcome = .error (.outOfRange .dateTime digits) ∧
        here.toZonedDateTime.outcome = .error (.outOfRange .zonedDateTime digits) := by
  have plain := outcome_toDateTime_of_count holds nonzero denotes
  have zoned := outcome_toZonedDateTime_of_count holds nonzero denotes
  by_cases inRange : DateTime.InEpochRange (epochSeconds k)
  · rw [if_pos inRange] at plain zoned
    exact .inl ⟨_, plain, zoned⟩
  · rw [if_neg inRange] at plain zoned
    exact .inr ⟨plain, zoned⟩

/-- An integer survives as a number and as the text of its digits.  Every integer type gives it back
from both or refuses both with the same digits, both are its decimal, both are the same times if
they are a nonzero count of 64 bits, and the text of the number is just its digits. -/
theorem integer_survives_both_forms (k : Int) (exact : Json.IsExact k) :
    let number := found (.number (.integer k exact))
    let digits := String.ofList (Text.signedDigits k)
    let text := found (.string digits)
    (∀ type : IntegerType,
        (number.toInteger type).outcome = (text.toInteger type).outcome ∧
          (type.Holds k → (number.toInteger type).outcome = .ok k) ∧
          (¬type.Holds k →
            (number.toInteger type).outcome = .error (.outOfRange (.integer type) digits))) ∧
      (∃ d : Decimal, number.toDecimal.outcome = .ok d ∧ text.toDecimal.outcome = .ok d ∧
        d.toRat = k) ∧
      (IntegerType.i64.Holds k → k ≠ 0 →
        number.toDateTime.outcome = text.toDateTime.outcome ∧
          number.toZonedDateTime.outcome = text.toZonedDateTime.outcome ∧
          ((∃ time : DateTime, number.toDateTime.outcome = .ok time ∧
              number.toZonedDateTime.outcome = .ok (.ofUtc time)) ∨
            number.toDateTime.outcome = .error (.outOfRange .dateTime digits) ∧
              number.toZonedDateTime.outcome = .error (.outOfRange .zonedDateTime digits))) ∧
      number.toText = some digits := by
  intro number digits text
  have of_number : Denotes number k := .number rfl
  have of_text : Denotes text k := .digits k
  refine ⟨fun type => ?_, exists_toDecimal_integer exact, fun holds nonzero => ?_, rfl⟩
  · rw [outcome_toInteger_of_denotes type of_number exact.isWide,
      outcome_toInteger_of_denotes type of_text exact.isWide]
    exact ⟨rfl, fun holds => if_pos holds, fun beyond => if_neg beyond⟩
  · obtain ⟨plain, zoned⟩ := outcome_toTimes_eq_of_denotes of_number of_text holds nonzero
    exact ⟨plain, zoned, outcome_toTimes_of_denotes of_number holds nonzero⟩

theorem integer_survives_both_forms_beyond_i64 :
    let number := found (.number (.integer 9223372036854775808 (by decide)))
    let text := found (.string "9223372036854775808")
    (number.toInteger .u64).outcome = .ok 9223372036854775808 ∧
      (text.toInteger .u64).outcome = .ok 9223372036854775808 ∧
      (text.toInteger .i64).outcome =
        .error (.outOfRange (.integer .i64) "9223372036854775808") := by
  obtain ⟨integers, -⟩ := integer_survives_both_forms 9223372036854775808 (by decide)
  obtain ⟨same, unsigned, -⟩ := integers .u64
  obtain ⟨alike, -, signed⟩ := integers .i64
  have ok := unsigned (by decide)
  exact ⟨ok, same.symm.trans ok, alike.symm.trans (signed (by decide))⟩

end Located

end DotPath
