import DotPath.Proofs.DecimalDigits
import DotPath.Reading.Fraction
import Mathlib.Algebra.Order.Field.Rat
import Mathlib.Tactic.Ring

/-!
Digits read into a decimal.  They are read as long as they fit, and the first that does not decides
the rounding.
-/

set_option autoImplicit false
set_option relaxedAutoImplicit false

namespace DotPath

namespace Decimal

def ofCoefficient (negative : Bool) (coefficient scale : Nat) : Except Fault Decimal :=
  match ofParts? negative coefficient scale with
  | some d => .ok d
  | none => .error .tooManyDigits

/-- What the digits behind the last possible place add to it. -/
def carried : List Char → Nat
  | [] => 0
  | c :: _ => if 5 ≤ Text.digitValue c then 1 else 0

theorem carried_le_one (behind : List Char) : carried behind ≤ 1 := by
  cases behind with
  | nil => exact Nat.zero_le 1
  | cons c rest =>
    rw [carried]
    split <;> decide

/-! Reading digits -/

namespace Progress

variable {p : Progress} {digits : List Char}

/-- What has been read once digits have been read that fit. -/
def advance (p : Progress) (digits : List Char) : Progress :=
  { p with
    coefficient := p.coefficient * 10 ^ digits.length + Text.value digits
    scale := if p.pastPoint then p.scale + digits.length else p.scale
    hasDigit := p.hasDigit || !digits.isEmpty }

theorem advance_nil (p : Progress) : p.advance [] = p := by
  simp [advance]

theorem advance_append (p : Progress) (front back : List Char) :
    (p.advance front).advance back = p.advance (front ++ back) := by
  have coefficient : (p.coefficient * 10 ^ front.length + Text.value front) * 10 ^ back.length +
      Text.value back =
      p.coefficient * 10 ^ (front ++ back).length + Text.value (front ++ back) := by
    rw [Text.value_append, List.length_append, pow_add]
    ring
  have marks : (!(front ++ back).isEmpty) = (!front.isEmpty || !back.isEmpty) := by
    cases front <;> simp
  unfold advance
  simp only [coefficient, marks, Bool.or_assoc]
  cases p.pastPoint <;> simp [Nat.add_assoc]

theorem coefficient_le_advance (p : Progress) (digits : List Char) :
    p.coefficient ≤ (p.advance digits).coefficient :=
  (Nat.le_mul_of_pos_right _ (Nat.pow_pos (by decide))).trans (Nat.le_add_right _ _)

theorem advance_singleton_coefficient (p : Progress) (c : Char) :
    (p.advance [c]).coefficient = p.coefficient * 10 + Text.digitValue c := by
  simp [advance, Text.value_singleton]

theorem read_digit {c : Char} (digit : c.isDigit = true)
    (room : p.pastPoint = true → p.scale < maxScale)
    (fits : (p.advance [c]).coefficient < coefficientBound) (rest : List Char) :
    p.read (c :: rest) = (p.advance [c]).read rest := by
  have places : ¬(p.pastPoint = true ∧ maxScale ≤ p.scale) := fun full =>
    (room full.1).not_ge full.2
  rw [advance_singleton_coefficient] at fits
  rw [read, if_neg places, if_pos digit, if_pos fits]
  congr 1
  simp [advance, Text.value_singleton]

theorem read_digits (all : ∀ c ∈ digits, c.isDigit = true)
    (room : p.pastPoint = true → p.scale + digits.length ≤ maxScale)
    (fits : (p.advance digits).coefficient < coefficientBound) (rest : List Char) :
    p.read (digits ++ rest) = (p.advance digits).read rest := by
  -- whatever has been read before is in the progress, so the induction is for all of them
  induction digits generalizing p with
  | nil => rw [advance_nil, List.nil_append]
  | cons c tail ih =>
    obtain ⟨digit, tail_all⟩ := List.forall_mem_cons.mp all
    have joined : (p.advance [c]).advance tail = p.advance (c :: tail) := advance_append p [c] tail
    rw [List.length_cons] at room
    rw [← joined] at fits
    rw [List.cons_append, read_digit digit (fun past => by have := room past; omega)
      ((coefficient_le_advance _ tail).trans_lt fits), ih tail_all ?_ fits, joined]
    intro past
    have := room past
    have more : (p.advance [c]).scale = p.scale + 1 := if_pos past
    omega

theorem read_tooMany (all : ∀ c ∈ digits, c.isDigit = true) (whole : p.pastPoint = false)
    (fits : p.coefficient < coefficientBound)
    (beyond : coefficientBound ≤ (p.advance digits).coefficient) :
    p.read digits = .error .tooManyDigits := by
  induction digits generalizing p with
  | nil =>
    rw [advance_nil] at beyond
    exact absurd fits beyond.not_gt
  | cons c tail ih =>
    obtain ⟨digit, tail_all⟩ := List.forall_mem_cons.mp all
    have no_point : ¬(p.pastPoint = true ∧ maxScale ≤ p.scale) := by simp [whole]
    rw [← List.singleton_append, ← advance_append] at beyond
    by_cases next : (p.advance [c]).coefficient < coefficientBound
    · rw [read_digit digit (fun past => absurd past (by simp [whole])) next]
      exact ih tail_all whole next beyond
    · rw [advance_singleton_coefficient] at next
      rw [read, if_neg no_point, if_pos digit, if_neg next, if_neg (by simp [whole])]

theorem read_point (whole : p.pastPoint = false) (rest : List Char) :
    p.read ('.' :: rest) = ({ p with pastPoint := true } : Progress).read rest := by
  have no_point : ¬(p.pastPoint = true ∧ maxScale ≤ p.scale) := by simp [whole]
  rw [read, if_neg no_point, if_neg (by decide), if_pos (by simp [whole])]

theorem finish_eq (digit : p.hasDigit = true) :
    p.finish = ofCoefficient p.negative p.coefficient p.scale :=
  if_pos digit

/-- Digits behind the last possible place raise it if the first of them is five or more, and do
nothing else. -/
theorem roundAt_digits {c : Char} {rest : List Char} (all : ∀ d ∈ c :: rest, d.isDigit = true)
    (some_digit : p.hasDigit = true) (fits : p.coefficient + 1 < coefficientBound) :
    p.roundAt (c :: rest) =
      ofCoefficient p.negative (p.coefficient + carried (c :: rest)) p.scale := by
  obtain ⟨digit, rest_all⟩ := List.forall_mem_cons.mp all
  have separator : c ≠ '_' := by
    rintro rfl
    cases digit
  have deciding : p.decidingText (c :: rest) = c :: rest := by
    unfold decidingText
    rw [List.dropWhile_cons_of_neg (by simpa using separator), ite_self]
  have clean : rest.find? (!mayFollow ·) = none := by
    rw [List.find?_eq_none]
    intro d member
    simp [mayFollow, rest_all d member]
  have follows : mayFollow c = true := by simp [mayFollow, digit]
  unfold roundAt
  rw [deciding]
  simp only [follows, if_true, clean, digit, Bool.true_and, decide_eq_true_iff]
  by_cases up : 5 ≤ Text.digitValue c
  · simp only [up, if_true, raiseLast, fits, carried]
    exact (bind_pure _).trans (finish_eq some_digit)
  · simp only [up, if_false, carried]
    exact (bind_pure _).trans (finish_eq some_digit)

end Progress

/-! Decimals of positional text -/

def withSign (negative : Bool) (text : List Char) : List Char :=
  if negative then '-' :: text else text

theorem withSign_append (negative : Bool) (front back : List Char) :
    withSign negative (front ++ back) = withSign negative front ++ back := by
  cases negative <;> rfl

/-- The digits up to the last possible place, with the last one raised if the digits behind it
say so. -/
def keptDigits (whole part : List Char) : Nat :=
  Text.value (whole ++ part.take maxScale) + carried (part.drop maxScale)

def ofDigits (negative : Bool) (whole part : List Char) : Except Fault Decimal :=
  ofCoefficient negative (keptDigits whole part) (min part.length maxScale)

section Positional

variable {negative : Bool} {whole part : List Char}

theorem keptDigits_nil (whole : List Char) : keptDigits whole [] = Text.value whole := by
  simp [keptDigits, carried]

theorem keptDigits_of_short (short : part.length ≤ maxScale) :
    keptDigits whole part = Text.value (whole ++ part) := by
  rw [keptDigits, List.take_of_length_le short, List.drop_eq_nil_of_le short, carried,
    Nat.add_zero]

theorem maxScale_le_of_drop {c : Char} {rest : List Char}
    (behind : part.drop maxScale = c :: rest) : maxScale ≤ part.length := by
  by_contra shorter
  rw [List.drop_eq_nil_of_le (not_le.mp shorter).le] at behind
  cases behind

theorem readPositional_withSign {body : List Char} {first : Char} {rest : List Char}
    (begins : body = first :: rest) (digit : first.isDigit = true) :
    readPositional (withSign negative body) = Progress.read { negative } body := by
  subst begins
  cases negative with
  | true => rfl
  | false =>
    have no_minus : first ≠ '-' := by
      rintro rfl
      cases digit
    have no_plus : first ≠ '+' := by
      rintro rfl
      cases digit
    show readPositional (first :: rest) = _
    unfold readPositional
    split
    next empty => cases empty
    next minus => exact absurd (List.cons.inj minus).1 no_minus
    next plus => exact absurd (List.cons.inj plus).1 no_plus
    next => rfl

section Numeral

variable (numeral : Text.isNumeral whole = true)

include numeral

theorem advance_whole (negative : Bool) :
    ({ negative } : Progress).advance whole =
      { negative, coefficient := Text.value whole, hasDigit := true } := by
  obtain ⟨first, rest, rfl, -⟩ := Text.exists_first_digit numeral
  simp [Progress.advance]

theorem readPositional_whole :
    readPositional (withSign negative whole) = ofDigits negative whole [] := by
  obtain ⟨first, rest, begins, digit⟩ := Text.exists_first_digit numeral
  have all := (Text.isNumeral_iff.mp numeral).2
  rw [readPositional_withSign begins digit, ofDigits, keptDigits_nil]
  have read_whole := advance_whole numeral negative
  by_cases fits : Text.value whole < coefficientBound
  · have reads := Progress.read_digits (p := { negative }) all (by simp)
      (by rw [read_whole]; exact fits) []
    rw [List.append_nil, read_whole] at reads
    rw [reads]
    exact Progress.finish_eq rfl
  · have beyond : coefficientBound ≤ (({ negative } : Progress).advance whole).coefficient := by
      rw [read_whole]
      exact not_lt.mp fits
    have too_many : ofParts? negative (Text.value whole) 0 = none :=
      dif_neg fun bounds => fits bounds.1
    rw [Progress.read_tooMany all rfl (Nat.pow_pos (by decide)) beyond]
    simp only [ofCoefficient, List.length_nil, Nat.zero_min, too_many]

/-- A text with a point is read as the decimal of its digits, if those fit that are kept. -/
theorem readPositional_pointed (negative : Bool) (all : ∀ c ∈ part, c.isDigit = true)
    (fits : Text.value (whole ++ part.take maxScale) + 1 < coefficientBound) :
    readPositional (withSign negative (whole ++ '.' :: part)) = ofDigits negative whole part := by
  obtain ⟨first, rest, begins, digit⟩ := Text.exists_first_digit numeral
  have whole_all := (Text.isNumeral_iff.mp numeral).2
  have kept_all : ∀ c ∈ part.take maxScale, c.isDigit = true := fun c member =>
    all c (List.mem_of_mem_take member)
  have whole_le : Text.value whole ≤ Text.value (whole ++ part.take maxScale) := by
    rw [Text.value_append]
    exact (Nat.le_mul_of_pos_right _ (Nat.pow_pos (by decide))).trans (Nat.le_add_right _ _)
  have kept_fits := Nat.lt_of_succ_lt fits
  have whole_fits := whole_le.trans_lt kept_fits
  -- three runs of digits: up to the point, up to the last possible place, and behind it
  have read_whole := advance_whole numeral negative
  have pointed : readPositional (withSign negative (whole ++ '.' :: part)) =
      Progress.read
        { negative, coefficient := Text.value whole, pastPoint := true, hasDigit := true }
        (part.take maxScale ++ part.drop maxScale) := by
    rw [readPositional_withSign (by rw [begins, List.cons_append]) digit,
      Progress.read_digits whole_all (by simp) (by rw [read_whole]; exact whole_fits), read_whole,
      Progress.read_point rfl, List.take_append_drop]
  have read_kept : Progress.advance
      { negative, coefficient := Text.value whole, pastPoint := true, hasDigit := true }
      (part.take maxScale) =
      { negative, coefficient := Text.value (whole ++ part.take maxScale)
        scale := min part.length maxScale, pastPoint := true, hasDigit := true } := by
    simp [Progress.advance, Text.value_append, Nat.min_comm]
  rw [pointed, Progress.read_digits kept_all (by simp) (by rw [read_kept]; exact kept_fits),
    read_kept, ofDigits, keptDigits]
  cases behind : part.drop maxScale with
  | nil => exact Progress.finish_eq rfl
  | cons c rest =>
    have longer := maxScale_le_of_drop behind
    have behind_all : ∀ d ∈ c :: rest, d.isDigit = true := by
      intro d member
      rw [← behind] at member
      exact all d (List.mem_of_mem_drop member)
    rw [Progress.read, if_pos ⟨rfl, by rw [Nat.min_eq_right longer]⟩]
    exact Progress.roundAt_digits behind_all rfl fits

end Numeral

end Positional

/-! Decimals and the numbers that they denote -/

section Denotation

variable {negative : Bool} {coefficient scale : Nat} {d : Decimal}

theorem ofParts?_eq_some_iff : ofParts? negative coefficient scale = some d ↔
    (d.negative = (negative && coefficient != 0) ∧ d.coefficient = coefficient ∧
      d.scale = scale) := by
  unfold ofParts?
  split
  next bounds =>
    rw [Option.some_inj]
    constructor
    · rintro rfl
      exact ⟨rfl, rfl, rfl⟩
    · intro parts
      cases d
      simp_all
  next bounds =>
    simp only [reduceCtorEq, false_iff]
    rintro ⟨-, rfl, rfl⟩
    exact bounds ⟨d.coefficient_lt, d.scale_le⟩

theorem signedCoefficient_of_ofParts? (parts : ofParts? negative coefficient scale = some d) :
    d.signedCoefficient = if negative then -(coefficient : Int) else coefficient := by
  obtain ⟨sign, size, -⟩ := ofParts?_eq_some_iff.mp parts
  unfold signedCoefficient
  rw [sign, size]
  rcases Nat.eq_zero_or_pos coefficient with rfl | pos
  · simp
  · simp [pos.ne']

theorem toRat_of_ofParts? (parts : ofParts? negative coefficient scale = some d) :
    d.toRat = if negative then -(coefficient / 10 ^ scale : ℚ) else coefficient / 10 ^ scale := by
  obtain ⟨-, -, places⟩ := ofParts?_eq_some_iff.mp parts
  unfold toRat
  rw [Rat.mkRat_eq_div, signedCoefficient_of_ofParts? parts, places]
  cases negative <;> simp [neg_div]

theorem awayByUlp?_of_ofParts? (parts : ofParts? negative coefficient maxScale = some d) :
    d.awayByUlp? negative = ofParts? negative (coefficient + 1) maxScale := by
  obtain ⟨-, -, places⟩ := ofParts?_eq_some_iff.mp parts
  have signed := signedCoefficient_of_ofParts? parts
  unfold awayByUlp?
  rw [places, Nat.sub_self, pow_zero, mul_one, signed]
  cases negative with
  | false =>
    have nonneg : ¬((coefficient : Int) + 1 < 0) := by omega
    have size : ((coefficient : Int) + 1).natAbs = coefficient + 1 := by omega
    simp [nonneg, size]
  | true =>
    have below : -(coefficient : Int) + -1 < 0 := by omega
    have size : (-(coefficient : Int) + -1).natAbs = coefficient + 1 := by omega
    simp [below, size]

end Denotation

end Decimal

end DotPath
