import DotPath.Power

/-!
Decimal digits of natural numbers.  `digits` writes a number without leading zeros, `value` reads a
run of digits, and `value_digits` says that reading undoes writing.
-/

set_option autoImplicit false
set_option relaxedAutoImplicit false

namespace DotPath.Text

def digits (n : Nat) : List Char :=
  Nat.toDigits 10 n

def decimal (n : Nat) : String :=
  String.ofList (digits n)

/-- The number that a run of decimal digits denotes, most significant digit first. -/
def value (text : List Char) : Nat :=
  Nat.ofDigitChars 10 text 0

def digitValue (c : Char) : Nat :=
  c.toNat - '0'.toNat

def isNumeral (text : List Char) : Bool :=
  !text.isEmpty && text.all Char.isDigit

def spanDigits (text : List Char) : List Char × List Char :=
  (text.takeWhile Char.isDigit, text.dropWhile Char.isDigit)

/-- The decimal digits of a number, filled up with leading zeros to at least `width` characters. -/
def paddedDigits (width n : Nat) : List Char :=
  List.replicate (width - (digits n).length) '0' ++ digits n

def signedDigits (k : Int) : List Char :=
  if k < 0 then '-' :: digits k.natAbs else digits k.natAbs

@[simp]
theorem value_digits (n : Nat) : value (digits n) = n :=
  Nat.ofDigitChars_toDigits (by decide) (by decide)

theorem isDigit_of_mem_digits {n : Nat} {c : Char} (member : c ∈ digits n) : c.isDigit = true :=
  Nat.isDigit_of_mem_toDigits (by decide) (by decide) member

theorem digits_ne_nil (n : Nat) : digits n ≠ [] :=
  Nat.toDigits_ne_nil

theorem isNumeral_digits (n : Nat) : isNumeral (digits n) = true := by
  simp only [isNumeral, Bool.and_eq_true, Bool.not_eq_true', List.isEmpty_eq_false_iff,
    List.all_eq_true]
  exact ⟨digits_ne_nil n, fun _ member => isDigit_of_mem_digits member⟩

theorem isDigit_of_mem_paddedDigits {width n : Nat} {c : Char}
    (member : c ∈ paddedDigits width n) : c.isDigit = true := by
  rcases List.mem_append.mp member with zero | digit
  · rw [List.eq_of_mem_replicate zero]
    rfl
  · exact isDigit_of_mem_digits digit

@[simp]
theorem value_paddedDigits (width n : Nat) : value (paddedDigits width n) = n := by
  have zeros (count : Nat) : Nat.ofDigitChars 10 (List.replicate count '0') 0 = 0 := by
    induction count with
    | zero => rfl
    | succ count ih => simp [List.replicate_succ, Nat.ofDigitChars_cons, ih]
  unfold value paddedDigits
  rw [Nat.ofDigitChars_append, zeros]
  exact value_digits n

theorem length_paddedDigits {width n : Nat} (pos : 0 < width) (fits : n < 10 ^ width) :
    (paddedDigits width n).length = width := by
  have short : (digits n).length ≤ width :=
    (Nat.length_toDigits_le_iff (by decide) pos).mpr fits
  simp only [paddedDigits, List.length_append, List.length_replicate]
  omega

theorem spanDigits_append (text : List Char) : (spanDigits text).1 ++ (spanDigits text).2 = text :=
  List.takeWhile_append_dropWhile

end DotPath.Text
