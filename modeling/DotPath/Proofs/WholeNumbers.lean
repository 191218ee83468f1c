import DotPath.Proofs.DecimalRounding
import DotPath.Proofs.ReadingBack

/-!
Whole numbers by value and by text.  The integer of a number is that of its value, and its text and
its decimal are those of the number printed.  Where a float is whole, it is printed whole, as an
integer that is rounded to the float; the two are the same unless the float is so great that fewer
digits than its own tell it apart from others.
-/

set_option autoImplicit false
set_option relaxedAutoImplicit false

namespace DotPath

open Binary (Finite binary64)

namespace Json.Number

variable {number : Number} {k : Int}

theorem plain_eq_signedDigits (printed : number.printed = k) :
    number.plain = Text.signedDigits k := by
  obtain ⟨p, plain, value⟩ := number.exists_plain_eq
  have same : p = PlainNumber.ofInt k := by
    apply PlainNumber.toRat_inj
    rw [value, printed, PlainNumber.toRat_ofInt]
  rw [plain, same, PlainNumber.text_ofInt]

/-- The numbers that are printed as they are: integers, and floats of a magnitude up to two to the
fifty-fourth or with few enough digits in front of zeros. -/
inductive IsPrintedExactly : Number → Int → Prop
  | integer {k : Int} (exact : IsExact k) : IsPrintedExactly (.integer k exact) k
  | small {number : Number} {k : Int} (le : k.natAbs ≤ 2 ^ 54) : IsPrintedExactly number k
  | few {number : Number} {k : Int} {significand exponent : Nat} (fits : significand < 2 ^ 53)
      (equal : k.natAbs = significand * 10 ^ exponent) : IsPrintedExactly number k

end Json.Number

namespace Binary.Finite

variable {x : Finite binary64} {n : Nat} {k : Int}

theorem magnitude_of_toRat_eq (whole : x.toRat = k) : x.magnitude = k.natAbs := by
  rw [← x.abs_toRat, whole, Nat.cast_natAbs, Int.cast_abs]

theorem abs_printed_sub_toRat (x : Finite binary64) :
    |(Json.Number.float x).printed - x.toRat| = |x.shortest.toRat - x.magnitude| := by
  show |(if x.negative then -x.shortest.toRat else x.shortest.toRat) - x.toRat| = _
  rw [x.toRat_eq]
  cases x.negative with
  | false => rfl
  | true => rw [if_pos rfl, if_pos rfl, ← neg_sub', abs_neg]

theorem exists_ofInt_printed {printed : Int} (whole : x.toRat = k)
    (value : (Json.Number.float x).printed = printed) :
    ∃ y, binary64.ofInt printed = .finite y ∧ y.toRat = k := by
  have size := Json.Number.abs_printed_float x
  have rounded : binary64.nearest x.negative printed.natAbs 1 = .finite x := by
    apply nearest_shortest x Nat.one_pos
    rw [← size, value, Nat.cast_natAbs, Int.cast_abs, Nat.cast_one, div_one]
  have sign_value : (if x.negative then -x.shortest.toRat else x.shortest.toRat) = printed := value
  rcases eq_or_ne printed 0 with rfl | nonzero
  · -- the sign of zero is lost, which does not matter to its value
    have zero_value (negative : Bool) : (zero binary64 negative).toRat = 0 := by
      rw [toRat_eq]
      simp [magnitude, zero]
    have same : zero binary64 x.negative = x := Datum.finite.inj rounded
    refine ⟨zero binary64 false, rfl, ?_⟩
    rw [← whole, ← same, zero_value, zero_value]
  · have pos : 0 < x.shortest.toRat := by
      rw [← size, value]
      exact abs_pos.mpr (by exact_mod_cast nonzero)
    have sign : decide (printed < 0) = x.negative := by
      cases negative : x.negative with
      | false =>
        rw [negative, if_neg Bool.false_ne_true] at sign_value
        rw [sign_value] at pos
        exact decide_eq_false (by exact_mod_cast pos.not_gt)
      | true =>
        rw [negative, if_pos rfl] at sign_value
        have below : (printed : ℚ) < 0 := by linarith
        exact decide_eq_true (by exact_mod_cast below)
    refine ⟨x, ?_, whole⟩
    unfold Format.ofInt
    rw [sign, rounded]

theorem shortest_eq_of_isPrintedExactly (whole : x.toRat = k)
    (exact : Json.Number.IsPrintedExactly (.float x) k) : x.shortest.toRat = x.magnitude := by
  have size := magnitude_of_toRat_eq whole
  cases exact with
  | small le => rw [size, shortest_eq_of_le size le]
  | @few _ _ significand exponent fits equal =>
    have decimal : x.magnitude = significand * 10 ^ (exponent : Int) := by
      rw [size, equal, zpow_natCast]
      push_cast
      rfl
    rcases Nat.eq_zero_or_pos k.natAbs with zero | pos
    · rw [zero, Nat.cast_zero] at size
      rw [shortest_of_magnitude_eq_zero size, size]
    · exact shortest_eq_magnitude (full_of_whole pos size) decimal fits

end Binary.Finite

namespace Json.Number

variable {number : Number} {k : Int}

/-- A whole number is printed whole, close to its value, and mostly as its value; and where a float
is not, it is as an integer that is rounded to it. -/
theorem exists_printed_eq (whole : number.toRat = k) :
    ∃ printed : Int, number.printed = printed ∧ |printed - k| * 2 ^ 53 ≤ |k| ∧
      (number.IsPrintedExactly k → printed = k) ∧
      (∀ x, number = .float x → ∃ y, binary64.ofInt printed = .finite y ∧ y.toRat = k) := by
  cases number with
  | integer l exact =>
    obtain rfl : l = k := Rat.intCast_inj.mp whole
    refine ⟨l, rfl, by simp, fun _ => rfl, fun x same => ?_⟩
    cases same
  | float x =>
    have equal : x.toRat = k := whole
    have size := Binary.Finite.magnitude_of_toRat_eq equal
    obtain ⟨m, shortest⟩ := Binary.Finite.exists_shortest_eq_natCast size
    have near := Binary.Finite.shortest_sub_mul_le size
    have distance := x.abs_printed_sub_toRat
    have value : (float x).printed = ((if x.negative then -m else m : Int) : ℚ) := by
      show (if x.negative then -x.shortest.toRat else x.shortest.toRat) = _
      rw [shortest]
      split <;> norm_cast
    refine ⟨_, value, ?_, fun exact => ?_, ?_⟩
    · rw [← size, ← distance, value, equal, size] at near
      have absolute : (k.natAbs : ℚ) = (|k| : Int) := by rw [Nat.cast_natAbs]
      rw [absolute] at near
      exact_mod_cast near
    · rw [Binary.Finite.shortest_eq_of_isPrintedExactly equal exact, sub_self, abs_zero, value,
        equal, abs_eq_zero, sub_eq_zero] at distance
      exact_mod_cast distance
    · rintro y same
      obtain rfl := Number.float.inj same
      exact Binary.Finite.exists_ofInt_printed equal value

end Json.Number

theorem IntegerType.Holds.natAbs_lt {type : IntegerType} {k : Int} (holds : type.Holds k) :
    k.natAbs < 2 ^ 64 := by
  unfold Holds at holds
  cases type with (simp only [least, greatest, isSigned, width] at holds; omega)

/-- Where an integer type reads an integer from a number, the text of the number is that of an
integer, and its decimal is just that integer.  It is the integer read, unless the number is a float
beyond two to the fifty-fourth with too many digits; then it is close to it, and rounded to a float
it is the integer read. -/
theorem toInteger_printed {number : Json.Number} {type : IntegerType} {k : Int}
    (read : ((Located.found (.number number)).toInteger type).outcome = .ok k) :
    ∃ printed : Int,
      Located.toText (.found (.number number)) =
          some (String.ofList (Text.signedDigits printed)) ∧
        (∃ d : Decimal, (Located.found (.number number)).toDecimal.outcome = .ok d ∧
          d.toRat = printed) ∧
        |printed - k| * 2 ^ 53 ≤ |k| ∧ (number.IsPrintedExactly k → printed = k) ∧
        ∀ x, number = .float x → ∃ y, binary64.ofInt printed = .finite y ∧ y.toRat = k := by
  obtain ⟨holds, denotes⟩ := Located.outcome_toInteger_eq_ok_iff.mp read
  have whole : number.toRat = k := by
    cases denotes with
    | number equal => exact equal
  obtain ⟨printed, value, near, same⟩ := Json.Number.exists_printed_eq whole
  -- an integer of 64 bits is far from the greatest decimal, and so is one close to it
  have small : |number.printed| ≤ 79228162514264337593543950335 := by
    have bounded := holds.natAbs_lt
    have bound : |printed| ≤ 79228162514264337593543950335 := by
      have close := near
      rw [Int.abs_eq_natAbs, Int.abs_eq_natAbs] at close
      rw [Int.abs_eq_natAbs]
      omega
    rw [value]
    exact_mod_cast bound
  obtain ⟨d, decimal, -, rounded⟩ := exists_toDecimal_eq_ok small
  refine ⟨printed, ?_, ⟨d, decimal, ?_⟩, near, same⟩
  · rw [← Json.Number.plain_eq_signedDigits value]
    rfl
  · rw [rounded, value]
    exact roundAway_eq_self (k := printed * 10 ^ 28) (by push_cast; rfl)

theorem toInteger_printed_small :
    ∃ d : Decimal,
      (Located.found (.number (.float ⟨true, 2 ^ 52, -51, by decide⟩))).toDecimal.outcome = .ok d ∧
        d.toRat = -2 := by
  have read : ((Located.found
      (.number (.float ⟨true, 2 ^ 52, -51, by decide⟩))).toInteger .i64).outcome = .ok (-2) := by
    decide +kernel
  obtain ⟨printed, -, ⟨d, decimal, value⟩, -, same, -⟩ := toInteger_printed read
  rw [same (.small (by decide))] at value
  exact ⟨d, decimal, by exact_mod_cast value⟩

/-- Two to the sixtieth is not printed as its value, as its last digits are not needed to tell it
from other floats. -/
theorem toText_ne_toInteger :
    let here : Located := .found (.number (.float ⟨false, 2 ^ 52, 8, by decide⟩))
    (here.toInteger .i64).outcome = .ok 1152921504606846976 ∧
      (here.toInteger .u64).outcome = .ok 1152921504606846976 ∧
      here.toText = some "1152921504606847000" ∧
      here.toText ≠ some (String.ofList (Text.signedDigits 1152921504606846976)) ∧
      ∃ d : Decimal, here.toDecimal.outcome = .ok d ∧ d.toRat = 1152921504606847000 ∧
        d.toRat ≠ 1152921504606846976 := by
  refine ⟨by decide +kernel, by decide +kernel, by decide +kernel, by decide +kernel, ?_⟩
  exact ⟨⟨false, 1152921504606847000, 0, by decide, by decide⟩, by decide +kernel,
    by decide +kernel, by decide +kernel⟩

end DotPath
