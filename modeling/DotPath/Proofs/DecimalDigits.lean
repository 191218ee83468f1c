import DotPath.Text.Digits
import Mathlib.Algebra.Order.Ring.Int

/-!
The positional value of digits.  Behind other digits a run of digits keeps its value and shifts
theirs, and digits without a needless zero in front are found again from their value.
-/

set_option autoImplicit false
set_option relaxedAutoImplicit false

namespace DotPath.Text

theorem isNumeral_iff {digits : List Char} :
    isNumeral digits = true ↔ digits ≠ [] ∧ ∀ c ∈ digits, c.isDigit = true := by
  simp [isNumeral]

theorem exists_first_digit {digits : List Char} (numeral : isNumeral digits = true) :
    ∃ first rest, digits = first :: rest ∧ first.isDigit = true := by
  obtain ⟨nonempty, all⟩ := isNumeral_iff.mp numeral
  obtain ⟨first, rest, rfl⟩ := List.exists_cons_of_ne_nil nonempty
  exact ⟨first, rest, rfl, all first List.mem_cons_self⟩

theorem isDigit_zeros (count : Nat) : ∀ c ∈ List.replicate count '0', c.isDigit = true := by
  intro c member
  rw [List.eq_of_mem_replicate member]
  rfl

/-! Single digits -/

section Digit

variable {c d : Char} (digit : c.isDigit = true)

include digit

theorem digitValue_lt : digitValue c < 10 := by
  simp only [Char.isDigit, Bool.and_eq_true, decide_eq_true_eq, UInt32.le_iff_toNat_le] at digit
  have high : c.toNat ≤ 57 := digit.2
  have zero : '0'.toNat = 48 := rfl
  unfold digitValue
  omega

theorem digitValue_inj (other : d.isDigit = true) (same : digitValue c = digitValue d) :
    c = d := by
  simp only [Char.isDigit, Bool.and_eq_true, decide_eq_true_eq, UInt32.le_iff_toNat_le]
    at digit other
  have low : 48 ≤ c.toNat := digit.1
  have otherLow : 48 ≤ d.toNat := other.1
  have zero : '0'.toNat = 48 := rfl
  unfold digitValue at same
  exact Char.toNat_inj.mp (by omega)

theorem digitValue_ne_zero (nonzero : c ≠ '0') : digitValue c ≠ 0 := fun zero =>
  nonzero (digitValue_inj digit rfl zero)

theorem digitChar_digitValue : (digitValue c).digitChar = c := by
  have small := digitValue_lt digit
  refine digitValue_inj ?_ digit (Nat.toNat_digitChar_sub_48_of_lt_ten small)
  rw [Nat.isDigit_digitChar]
  exact decide_eq_true small

end Digit

/-! Runs of digits -/

@[simp]
theorem value_nil : value [] = 0 :=
  rfl

theorem value_append (front back : List Char) :
    value (front ++ back) = value front * 10 ^ back.length + value back := by
  unfold value
  rw [Nat.ofDigitChars_append, Nat.ofDigitChars_eq_ofDigitChars_zero, Nat.mul_comm]

theorem value_singleton (c : Char) : value [c] = digitValue c := by
  simp [value, Nat.ofDigitChars_cons, digitValue]

theorem value_cons (c : Char) (rest : List Char) :
    value (c :: rest) = digitValue c * 10 ^ rest.length + value rest := by
  rw [← value_singleton]
  exact value_append [c] rest

@[simp]
theorem value_replicate_zero (count : Nat) : value (List.replicate count '0') = 0 := by
  unfold value
  rw [Nat.ofDigitChars_replicate_zero, Nat.mul_zero]

section Run

variable {digits : List Char} (all : ∀ c ∈ digits, c.isDigit = true)

include all

theorem value_lt : value digits < 10 ^ digits.length := by
  induction digits with
  | nil => exact Nat.one_pos
  | cons c rest ih =>
    obtain ⟨digit, rest_all⟩ := List.forall_mem_cons.mp all
    calc value (c :: rest) = digitValue c * 10 ^ rest.length + value rest := value_cons c rest
      _ < digitValue c * 10 ^ rest.length + 10 ^ rest.length := by
        exact Nat.add_lt_add_left (ih rest_all) _
      _ = (digitValue c + 1) * 10 ^ rest.length := (Nat.succ_mul _ _).symm
      _ ≤ 10 * 10 ^ rest.length := Nat.mul_le_mul_right _ (digitValue_lt digit)
      _ = 10 ^ (c :: rest).length := (Nat.pow_succ').symm

theorem value_pos (nonempty : digits ≠ []) (leading : digits.head? ≠ some '0') :
    0 < value digits := by
  obtain ⟨c, rest, rfl⟩ := List.exists_cons_of_ne_nil nonempty
  have nonzero : digitValue c ≠ 0 :=
    digitValue_ne_zero (List.forall_mem_cons.mp all).1 fun zero => leading (congrArg some zero)
  have head : 0 < digitValue c * 10 ^ rest.length :=
    Nat.mul_pos (Nat.pos_of_ne_zero nonzero) (Nat.pow_pos (by decide))
  rw [value_cons]
  omega

theorem eq_of_value_eq {other : List Char} (otherAll : ∀ c ∈ other, c.isDigit = true)
    (length : digits.length = other.length) (same : value digits = value other) :
    digits = other := by
  induction digits generalizing other with
  | nil => exact (List.length_eq_zero_iff.mp length.symm).symm
  | cons c rest ih =>
    obtain ⟨d, more, rfl⟩ := List.exists_cons_of_length_eq_add_one length.symm
    obtain ⟨digit, rest_all⟩ := List.forall_mem_cons.mp all
    obtain ⟨otherDigit, more_all⟩ := List.forall_mem_cons.mp otherAll
    have lengths : rest.length = more.length := by simpa using length
    have rest_lt := value_lt rest_all
    have more_lt := value_lt more_all
    have pos : 0 < 10 ^ more.length := Nat.pow_pos (by decide)
    rw [value_cons, value_cons, lengths] at same
    rw [lengths] at rest_lt
    have quotient (head tail : Nat) (small : tail < 10 ^ more.length) :
        (head * 10 ^ more.length + tail) / 10 ^ more.length = head := by
      rw [Nat.add_comm, Nat.add_mul_div_right tail head pos, Nat.div_eq_of_lt small, Nat.zero_add]
    have heads : digitValue c = digitValue d := by
      rw [← quotient (digitValue c) (value rest) rest_lt, same,
        quotient (digitValue d) (value more) more_lt]
    rw [heads] at same
    rw [digitValue_inj digit otherDigit heads,
      ih rest_all more_all lengths (Nat.add_left_cancel same)]

theorem digits_ofDigitChars {n : Nat} (pos : 0 < n) :
    Text.digits (Nat.ofDigitChars 10 digits n) = Text.digits n ++ digits := by
  induction digits generalizing n with
  | nil => rw [Nat.ofDigitChars_nil, List.append_nil]
  | cons c rest ih =>
    obtain ⟨digit, rest_all⟩ := List.forall_mem_cons.mp all
    have next : Text.digits (10 * n + digitValue c) = Text.digits n ++ [c] := by
      have appended := Nat.toDigits_append_toDigits (by decide) pos (digitValue_lt digit)
      rw [Nat.toDigits_of_lt_base (digitValue_lt digit), digitChar_digitValue digit] at appended
      exact appended.symm
    have step : Nat.ofDigitChars 10 (c :: rest) n =
        Nat.ofDigitChars 10 rest (10 * n + digitValue c) := Nat.ofDigitChars_cons
    rw [step, ih rest_all (by omega), next, List.append_assoc, List.singleton_append]

end Run

/-- Digits without a needless zero in front are those of the number that they denote. -/
theorem digits_value {text : List Char} (numeral : isNumeral text = true)
    (leading : text = ['0'] ∨ text.head? ≠ some '0') : digits (value text) = text := by
  obtain ⟨nonempty, all⟩ := isNumeral_iff.mp numeral
  rcases leading with rfl | leading
  · rfl
  · obtain ⟨c, rest, rfl⟩ := List.exists_cons_of_ne_nil nonempty
    obtain ⟨digit, rest_all⟩ := List.forall_mem_cons.mp all
    have nonzero : digitValue c ≠ 0 :=
      digitValue_ne_zero digit fun zero => leading (congrArg some zero)
    have single : digits (digitValue c) = [c] :=
      (Nat.toDigits_of_lt_base (digitValue_lt digit)).trans
        (congrArg (fun d => [d]) (digitChar_digitValue digit))
    have step : value (c :: rest) = Nat.ofDigitChars 10 rest (digitValue c) := by
      unfold value
      rw [Nat.ofDigitChars_cons, Nat.mul_zero, Nat.zero_add]
      rfl
    rw [step, digits_ofDigitChars rest_all (Nat.pos_of_ne_zero nonzero), single,
      List.singleton_append]

end DotPath.Text
