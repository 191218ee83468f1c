import DotPath.Proofs.DecimalReading
import DotPath.Proofs.WrittenNumbers
import Mathlib.Data.Sign.Basic

/-!
Numbers as decimals.  A number in plain form has few digits, or none behind its point, so it is only
the places of its fraction that can be too many for a decimal; then its decimal is the number
rounded half away from zero.
-/

set_option autoImplicit false
set_option relaxedAutoImplicit false

namespace DotPath

open Binary (Finite binary64)

/-! Numbers in plain form as decimals -/

namespace PlainNumber

open Decimal (maxScale coefficientBound keptDigits carried ofDigits withSign)

variable {p : PlainNumber}

/-- Holds of the numbers in plain form that have few digits, or none behind the point. -/
def IsBrief (p : PlainNumber) : Prop :=
  p.fraction = [] ∨ Text.value (p.whole ++ p.fraction) < 10 ^ 17

theorem text_eq_withSign (p : PlainNumber) : p.text = withSign p.negative p.digitsText :=
  rfl

theorem value_kept_le (p : PlainNumber) (places : Nat) :
    Text.value (p.whole ++ p.fraction.take places) ≤ Text.value (p.whole ++ p.fraction) := by
  have longer : 10 ^ (p.fraction.take places).length ≤ 10 ^ p.fraction.length :=
    Nat.pow_le_pow_right (by decide) (List.length_take_le' places p.fraction)
  have split := Text.value_append (p.fraction.take places) (p.fraction.drop places)
  rw [List.take_append_drop] at split
  rw [Text.value_append, Text.value_append, split]
  have scaled := Nat.mul_le_mul_left (Text.value p.whole) longer
  have pos : 0 < 10 ^ (p.fraction.drop places).length := Nat.pow_pos (by decide)
  have grown := Nat.le_mul_of_pos_right (Text.value (p.fraction.take places)) pos
  omega

theorem kept_succ_lt (brief : p.IsBrief) (pointed : p.fraction ≠ []) :
    Text.value (p.whole ++ p.fraction.take maxScale) + 1 < coefficientBound := by
  have few := brief.resolve_left pointed
  have kept := p.value_kept_le maxScale
  have bound : 10 ^ 17 < coefficientBound := by decide
  omega

theorem readPositional_text (brief : p.IsBrief) :
    Decimal.readPositional p.text = ofDigits p.negative p.whole p.fraction := by
  rw [text_eq_withSign]
  unfold digitsText
  cases part : p.fraction with
  | nil => exact Decimal.readPositional_whole p.numeral
  | cons c rest =>
    have pointed : p.fraction ≠ [] := by simp [part]
    have read := Decimal.readPositional_pointed p.numeral p.negative p.digits
      (kept_succ_lt brief pointed)
    rwa [part] at read

theorem not_mem_text {mark : Char} (other : mark.isDigit = false) (not_point : mark ≠ '.')
    (not_minus : mark ≠ '-') : mark ∉ p.text := by
  have inside : mark ∉ p.digitsText := fun member => by
    rcases p.spellsMagnitude.isDigit_or_eq_point mark member with digit | point
    · rw [digit] at other
      cases other
    · exact not_point point
  unfold text
  split
  · exact List.not_mem_cons_of_ne_of_not_mem not_minus inside
  · exact inside

theorem ofText_text (brief : p.IsBrief) :
    Decimal.ofText p.text = ofDigits p.negative p.whole p.fraction := by
  have unmarked : ∀ c ∈ p.text, (decide (c = 'e') || decide (c = 'E')) = false := by
    intro c member
    have lower : c ≠ 'e' := ne_of_mem_of_not_mem member (not_mem_text rfl (by decide) (by decide))
    have upper : c ≠ 'E' := ne_of_mem_of_not_mem member (not_mem_text rfl (by decide) (by decide))
    simp [lower, upper]
  unfold Decimal.ofText
  rw [readPositional_text brief, Numeral.cut_of_unmarked unmarked]
  cases ofDigits p.negative p.whole p.fraction <;> rfl

theorem head?_text (p : PlainNumber) : decide (p.text.head? = some '-') = p.negative := by
  obtain ⟨first, rest, begins, digit⟩ := p.spellsMagnitude.exists_eq_cons
  have other : first ≠ '-' := by
    rintro rfl
    cases digit
  unfold text
  cases p.negative with
  | true => rfl
  | false => simpa [begins] using other

private theorem unpointed (p : PlainNumber) :
    ∀ c ∈ withSign p.negative p.whole, decide (c = '.') = false := by
  have inside : ∀ c ∈ p.whole, decide (c = '.') = false := by
    intro c member
    refine decide_eq_false ?_
    rintro rfl
    cases (Text.isNumeral_iff.mp p.numeral).2 _ member
  unfold withSign
  cases p.negative with
  | false => exact inside
  | true => exact List.forall_mem_cons.mpr ⟨rfl, inside⟩

theorem cut_text_of_whole (whole : p.fraction = []) :
    Numeral.cut (· = '.') p.text = (p.text, none) := by
  have body : p.digitsText = p.whole := if_pos (by simp [whole])
  rw [text_eq_withSign, body]
  exact Numeral.cut_of_unmarked p.unpointed

theorem cut_text_of_pointed (pointed : p.fraction ≠ []) :
    Numeral.cut (· = '.') p.text = (withSign p.negative p.whole, some p.fraction) := by
  have body : p.digitsText = p.whole ++ '.' :: p.fraction := if_neg (by simpa using pointed)
  rw [text_eq_withSign, body, Decimal.withSign_append]
  exact Numeral.cut_append p.unpointed (decide_eq_true rfl) p.fraction

/-- Cutting a brief number at the last possible place, and then going one unit farther from zero if
the next digit is five or more, is what reading its text does. -/
theorem ofPlain_text (brief : p.IsBrief) :
    Decimal.ofPlain p.text = ofDigits p.negative p.whole p.fraction := by
  have read := readPositional_text brief
  unfold Decimal.ofPlain
  by_cases pointed : p.fraction = []
  · rw [cut_text_of_whole pointed]
    exact read
  rw [cut_text_of_pointed pointed]
  simp only [Option.getD_some]
  cases behind : p.fraction.drop maxScale with
  | nil => exact read
  | cons c rest =>
    have longer := Decimal.maxScale_le_of_drop behind
    have places : (p.fraction.take maxScale).length = maxScale := List.length_take_of_le longer
    have fits := kept_succ_lt brief pointed
    have read_kept : Decimal.readPositional
        (withSign p.negative p.whole ++ '.' :: p.fraction.take maxScale) =
        Decimal.ofCoefficient p.negative
          (Text.value (p.whole ++ p.fraction.take maxScale)) maxScale := by
      rw [← Decimal.withSign_append, Decimal.readPositional_pointed p.numeral p.negative
        (fun c member => p.digits c (List.mem_of_mem_take member))
        (by rwa [List.take_take, min_self]),
        ofDigits, Decimal.keptDigits_of_short places.le, places, min_self]
    have exists_decimal {coefficient : Nat} (fits : coefficient < coefficientBound) :
        ∃ d, Decimal.ofParts? p.negative coefficient maxScale = some d :=
      ⟨_, dif_pos ⟨fits, le_rfl⟩⟩
    -- both ways keep the same digits and look at the same next one; neither can run out of room
    obtain ⟨kept, kept_eq⟩ := exists_decimal (Nat.lt_of_succ_lt fits)
    obtain ⟨raised, raised_eq⟩ := exists_decimal fits
    have up := (Decimal.awayByUlp?_of_ofParts? kept_eq).trans raised_eq
    simp only [read_kept, ofDigits, keptDigits, behind, carried, Nat.min_eq_right longer,
      Decimal.ofCoefficient, kept_eq, p.head?_text]
    by_cases next : Text.digitValue c < 5
    · simp only [next, next.not_ge, if_true, if_false, Nat.add_zero, kept_eq]
      rfl
    · simp only [next, not_lt.mp next, if_true, if_false, raised_eq]
      refine (pure_bind kept _).trans ?_
      rw [up]
      rfl

end PlainNumber

/-! Rounding half away from zero -/

/-- A number rounded to a number of fraction digits, a half going away from zero. -/
def roundAway (places : Nat) (q : ℚ) : ℚ :=
  SignType.sign q * (⌊|q| * 10 ^ places + 1 / 2⌋₊ / 10 ^ places)

section Rounding

variable {places : Nat} {q : ℚ}

theorem roundAway_neg (places : Nat) (q : ℚ) : roundAway places (-q) = -roundAway places q := by
  unfold roundAway
  rw [abs_neg, Left.sign_neg]
  simp

theorem floor_add_half_of_cast (n : Nat) : ⌊(n : ℚ) + 1 / 2⌋₊ = n := by
  rw [Nat.floor_eq_iff (by positivity)]
  constructor <;> linarith

theorem roundAway_of_nonneg (nonneg : 0 ≤ q) :
    roundAway places q = ⌊q * 10 ^ places + 1 / 2⌋₊ / 10 ^ places := by
  unfold roundAway
  rw [abs_of_nonneg nonneg]
  rcases nonneg.eq_or_lt with rfl | pos
  · have none := floor_add_half_of_cast 0
    rw [Nat.cast_zero] at none
    rw [sign_zero, zero_mul, none]
    simp
  · rw [sign_pos pos, SignType.coe_one, one_mul]

theorem roundAway_eq_self {k : Int} (scaled : q * 10 ^ places = k) : roundAway places q = q := by
  have size : |q| * 10 ^ places = k.natAbs := by
    have pos : (0 : ℚ) < 10 ^ places := by positivity
    rw [← abs_of_pos pos, ← abs_mul, scaled, ← Int.cast_abs, Int.abs_eq_natAbs]
    rfl
  unfold roundAway
  rw [size, floor_add_half_of_cast, ← size, mul_div_assoc, div_self (by positivity), mul_one]
  exact sign_mul_abs q

theorem floor_add_half {behind : List Char} (all : ∀ c ∈ behind, c.isDigit = true) :
    ⌊(Text.value behind : ℚ) / 10 ^ behind.length + 1 / 2⌋₊ = Decimal.carried behind := by
  cases behind with
  | nil =>
    have zero := floor_add_half_of_cast 0
    rw [Nat.cast_zero] at zero
    simpa [Decimal.carried] using zero
  | cons c rest =>
    obtain ⟨digit, rest_all⟩ := List.forall_mem_cons.mp all
    have rest_lt : (Text.value rest : ℚ) < 10 ^ rest.length := by
      exact_mod_cast Text.value_lt rest_all
    have pos : (0 : ℚ) < 10 ^ rest.length := by positivity
    have parts : (Text.value (c :: rest) : ℚ) / 10 ^ (c :: rest).length =
        Text.digitValue c / 10 + Text.value rest / 10 ^ rest.length / 10 := by
      rw [Text.value_cons, List.length_cons, pow_succ]
      push_cast
      field_simp
    have tail_nonneg : (0 : ℚ) ≤ Text.value rest / 10 ^ rest.length := by positivity
    have tail_lt : (Text.value rest : ℚ) / 10 ^ rest.length < 1 := (div_lt_one pos).mpr rest_lt
    have head_le : (Text.digitValue c : ℚ) ≤ 9 := by
      exact_mod_cast Nat.le_of_lt_succ (Text.digitValue_lt digit)
    rw [parts, Nat.floor_eq_iff (by positivity), Decimal.carried]
    split
    next up =>
      have half : (5 : ℚ) ≤ Text.digitValue c := by exact_mod_cast up
      constructor <;> push_cast <;> linarith
    next down =>
      have less : (Text.digitValue c : ℚ) ≤ 4 := by
        exact_mod_cast Nat.le_of_lt_succ (not_le.mp down)
      have nonneg : (0 : ℚ) ≤ Text.digitValue c := by positivity
      constructor <;> push_cast <;> linarith

end Rounding

namespace PlainNumber

open Decimal (maxScale coefficientBound keptDigits carried ofDigits)

variable {p : PlainNumber} {n : Nat} {exponent : Int}

theorem magnitude_eq_div (p : PlainNumber) :
    p.magnitude = Text.value (p.whole ++ p.fraction) / 10 ^ p.fraction.length := by
  unfold magnitude
  rw [Text.value_append]
  push_cast
  field_simp

theorem abs_toRat (p : PlainNumber) : |p.toRat| = p.magnitude := by
  unfold toRat
  split
  · rw [abs_neg, abs_of_nonneg p.magnitude_nonneg]
  · rw [abs_of_nonneg p.magnitude_nonneg]

/-- A number that is a multiple of a power of ten has fraction digits up to that power only, since
the last of them is not zero. -/
theorem exponent_le (pointed : p.fraction ≠ []) (equal : p.magnitude = n * 10 ^ exponent) :
    exponent ≤ -p.fraction.length := by
  by_contra more
  obtain ⟨tens, power⟩ := Int.exists_add_of_le (not_le.mp more)
  have value : (Text.value (p.whole ++ p.fraction) : ℚ) = n * 10 ^ (tens + 1) := by
    rw [magnitude_eq_div, div_eq_iff (by positivity)] at equal
    rw [equal, power, mul_assoc, ← zpow_natCast, ← zpow_add₀ (by norm_num), ← zpow_natCast]
    congr 2
    push_cast
    ring
  have whole : Text.value (p.whole ++ p.fraction) = n * 10 ^ (tens + 1) := by exact_mod_cast value
  apply p.value_fraction_mod_ten pointed
  obtain ⟨more, length⟩ := Nat.exists_eq_succ_of_ne_zero
    (List.length_eq_zero_iff.not.mpr pointed)
  rw [Text.value_append, length, pow_succ, pow_succ, ← Nat.mul_assoc, ← Nat.mul_assoc] at whole
  omega

theorem isBrief_of_eq (few : n < 10 ^ 17) (equal : p.magnitude = n * 10 ^ exponent) :
    p.IsBrief := by
  by_cases pointed : p.fraction = []
  · exact .inl pointed
  · have le := exponent_le pointed equal
    have value_le : (Text.value (p.whole ++ p.fraction) : ℚ) ≤ n := by
      rw [magnitude_eq_div, div_eq_iff (by positivity)] at equal
      rw [equal, mul_assoc, ← zpow_natCast, ← zpow_add₀ (by norm_num)]
      exact mul_le_of_le_one_right n.cast_nonneg
        (zpow_le_one_of_nonpos₀ (by norm_num) (by omega))
    refine .inr (lt_of_le_of_lt ?_ few)
    exact_mod_cast value_le

theorem fraction_eq_nil (equal : p.magnitude = n) : p.fraction = [] := by
  by_contra pointed
  have le := exponent_le (n := n) pointed (by rw [equal, zpow_zero, mul_one])
  exact pointed (List.length_eq_zero_iff.mp (by omega))

theorem keptDigits_eq (p : PlainNumber) :
    (keptDigits p.whole p.fraction : ℚ) / 10 ^ min p.fraction.length maxScale =
      ⌊p.magnitude * 10 ^ maxScale + 1 / 2⌋₊ / 10 ^ maxScale := by
  rcases le_or_gt p.fraction.length maxScale with short | long
  · obtain ⟨more, places⟩ := Nat.exists_eq_add_of_le short
    have units : p.magnitude * 10 ^ maxScale =
        (Text.value (p.whole ++ p.fraction) * 10 ^ more : Nat) := by
      rw [magnitude_eq_div, places, pow_add]
      push_cast
      field_simp
    rw [units, floor_add_half_of_cast, Decimal.keptDigits_of_short short, Nat.min_eq_left short,
      places, pow_add]
    push_cast
    field_simp
  · have kept := List.take_append_drop maxScale p.fraction
    have places : (p.fraction.take maxScale).length = maxScale := List.length_take_of_le long.le
    have behind_all : ∀ c ∈ p.fraction.drop maxScale, c.isDigit = true := fun c member =>
      p.digits c (List.mem_of_mem_drop member)
    have units : p.magnitude * 10 ^ maxScale =
        Text.value (p.whole ++ p.fraction.take maxScale) +
          Text.value (p.fraction.drop maxScale) / 10 ^ (p.fraction.drop maxScale).length := by
      rw [magnitude_eq_div, ← kept, ← List.append_assoc, Text.value_append, List.length_append,
        pow_add, places, kept]
      push_cast
      field_simp
    -- the digits kept are whole units, so only those behind them are rounded
    have rounded : ⌊p.magnitude * 10 ^ maxScale + 1 / 2⌋₊ = keptDigits p.whole p.fraction := by
      rw [units, add_assoc, add_comm, Nat.floor_add_natCast (by positivity),
        floor_add_half behind_all, add_comm]
      rfl
    rw [rounded, Nat.min_eq_right long.le]

theorem keptDigits_lt_iff (brief : p.IsBrief) :
    keptDigits p.whole p.fraction < coefficientBound ↔
      p.magnitude ≤ 79228162514264337593543950335 := by
  have greatest : coefficientBound = 79228162514264337593543950335 + 1 := by
    norm_num [coefficientBound]
  by_cases pointed : p.fraction = []
  · have whole : p.magnitude = keptDigits p.whole p.fraction := by
      rw [magnitude_eq_div, pointed, Decimal.keptDigits_nil]
      simp
    rw [whole, greatest, Nat.lt_succ_iff]
    norm_cast
  · have few := brief.resolve_left pointed
    have le : p.magnitude ≤ Text.value (p.whole ++ p.fraction) := by
      rw [magnitude_eq_div]
      exact div_le_self (Nat.cast_nonneg _) (one_le_pow₀ (by norm_num))
    have bounded : (Text.value (p.whole ++ p.fraction) : ℚ) ≤ 79228162514264337593543950335 := by
      exact_mod_cast few.le.trans (by norm_num)
    refine iff_of_true ?_ (le.trans bounded)
    have carry := Decimal.carried_le_one (p.fraction.drop maxScale)
    have kept := kept_succ_lt brief pointed
    unfold keptDigits
    omega

theorem exists_ofDigits_eq_ok (brief : p.IsBrief)
    (le : p.magnitude ≤ 79228162514264337593543950335) :
    ∃ d : Decimal, ofDigits p.negative p.whole p.fraction = .ok d ∧
      d.toRat = roundAway maxScale p.toRat := by
  obtain ⟨d, parts⟩ : ∃ d, Decimal.ofParts? p.negative (keptDigits p.whole p.fraction)
      (min p.fraction.length maxScale) = some d :=
    ⟨_, dif_pos ⟨(keptDigits_lt_iff brief).mpr le, min_le_right _ _⟩⟩
  refine ⟨d, by simp only [ofDigits, Decimal.ofCoefficient, parts], ?_⟩
  rw [Decimal.toRat_of_ofParts? parts, keptDigits_eq, ← roundAway_of_nonneg p.magnitude_nonneg]
  unfold toRat
  split
  · rw [roundAway_neg]
  · rfl

theorem ofDigits_eq_error (brief : p.IsBrief)
    (beyond : 79228162514264337593543950335 < p.magnitude) :
    ofDigits p.negative p.whole p.fraction = .error .tooManyDigits := by
  have none : Decimal.ofParts? p.negative (keptDigits p.whole p.fraction)
      (min p.fraction.length maxScale) = none :=
    dif_neg fun bounds => beyond.not_ge ((keptDigits_lt_iff brief).mp bounds.1)
  simp only [ofDigits, Decimal.ofCoefficient, none]

theorem trim_text (p : PlainNumber) : Text.trim p.text = p.text := by
  apply Text.trim_of_not_blank
  intro c member
  by_contra blank
  rw [Bool.not_eq_false] at blank
  refine not_mem_text ?_ ?_ ?_ member
  · by_contra digit
    rw [Bool.not_eq_false] at digit
    rw [Text.isBlank_eq_false_of_isDigit digit] at blank
    cases blank
  · rintro rfl
    revert blank
    decide
  · rintro rfl
    revert blank
    decide

end PlainNumber

/-! Numbers of documents as decimals -/

namespace Json.Number

theorem abs_printed_integer (k : Int) (exact : IsExact k) :
    |(Number.integer k exact).printed| = k.natAbs := by
  unfold printed
  rw [Nat.cast_natAbs, Int.cast_abs]

theorem abs_printed_float (x : Finite binary64) :
    |(Number.float x).printed| = x.shortest.toRat := by
  have nonneg : 0 ≤ x.shortest.toRat := by
    unfold Binary.Scientific.toRat
    positivity
  show |if x.negative then -x.shortest.toRat else x.shortest.toRat| = _
  split
  · rw [abs_neg, abs_of_nonneg nonneg]
  · rw [abs_of_nonneg nonneg]

theorem exists_brief (number : Number) :
    ∃ p : PlainNumber, p.IsBrief ∧ number.plain = p.text ∧ p.toRat = number.printed := by
  obtain ⟨p, plain, value⟩ := number.exists_plain_eq
  refine ⟨p, ?_, plain, value⟩
  have size := p.abs_toRat
  rw [value] at size
  cases number with
  | integer k exact =>
    rw [abs_printed_integer] at size
    exact .inl (PlainNumber.fraction_eq_nil size.symm)
  | float x =>
    rw [abs_printed_float] at size
    obtain ⟨significand, exponent, few, shortest⟩ := x.exists_shortest_eq
    exact PlainNumber.isBrief_of_eq few (size.symm.trans shortest)

end Json.Number

namespace Located

variable {p : PlainNumber}

theorem outcome_toDecimal_number {number : Json.Number} (brief : p.IsBrief)
    (plain : number.plain = p.text) :
    (found (.number number)).toDecimal.outcome =
      match Decimal.ofDigits p.negative p.whole p.fraction with
      | .ok d => .ok d
      | .error _ => .error (.outOfRange .decimal (String.ofList number.text)) := by
  simp only [toDecimal, plain, PlainNumber.ofPlain_text brief]
  cases Decimal.ofDigits p.negative p.whole p.fraction <;> rfl

theorem outcome_toDecimal_text (brief : p.IsBrief) :
    (found (.string (String.ofList p.text))).toDecimal.outcome =
      match Decimal.ofDigits p.negative p.whole p.fraction with
      | .ok d => .ok d
      | .error fault =>
          .error (.unreadable .decimal (String.ofList p.text) (.badDecimal fault)) := by
  simp only [toDecimal, String.toList_ofList, p.trim_text, PlainNumber.ofText_text brief]
  cases Decimal.ofDigits p.negative p.whole p.fraction <;> rfl

end Located

theorem exists_toDecimal_eq_ok {number : Json.Number}
    (le : |number.printed| ≤ 79228162514264337593543950335) :
    ∃ d : Decimal, (Located.found (.number number)).toDecimal.outcome = .ok d ∧
      (Located.found (.string (String.ofList number.plain))).toDecimal.outcome = .ok d ∧
      d.toRat = roundAway 28 number.printed := by
  obtain ⟨p, brief, plain, value⟩ := number.exists_brief
  rw [← value, p.abs_toRat] at le
  obtain ⟨d, digits, rounded⟩ := PlainNumber.exists_ofDigits_eq_ok brief le
  have of_number := Located.outcome_toDecimal_number brief plain
  have of_text := Located.outcome_toDecimal_text brief
  rw [digits] at of_number of_text
  rw [plain, ← value]
  exact ⟨d, of_number, of_text, rounded⟩

theorem outcome_toDecimal_eq_error {number : Json.Number}
    (beyond : 79228162514264337593543950335 < |number.printed|) :
    (Located.found (.number number)).toDecimal.outcome =
        .error (.outOfRange .decimal (String.ofList number.text)) ∧
      (Located.found (.string (String.ofList number.plain))).toDecimal.outcome =
        .error
          (.unreadable .decimal (String.ofList number.plain) (.badDecimal .tooManyDigits)) := by
  obtain ⟨p, brief, plain, value⟩ := number.exists_brief
  rw [← value, p.abs_toRat] at beyond
  have of_number := Located.outcome_toDecimal_number brief plain
  have of_text := Located.outcome_toDecimal_text brief
  rw [PlainNumber.ofDigits_eq_error brief beyond] at of_number of_text
  rw [plain]
  exact ⟨of_number, of_text⟩

/-- The decimal of a number is the number in its text, rounded half away from zero behind the last
possible place, and so is the decimal of its text; only a number that is too great has none.  A
number with few enough digits is kept, and a number and its negative are rounded alike. -/
theorem toDecimal_number_rounds (number : Json.Number) :
    ∃ text : String, Located.toText (.found (.number number)) = some text ∧
      SpellsNumber text.toList number.printed ∧
      (∀ x, number = .float x → ∃ (significand : Nat) (exponent : Int), significand < 10 ^ 17 ∧
        |number.printed| = significand * 10 ^ exponent) ∧
      (|number.printed| ≤ 79228162514264337593543950335 →
        ∃ d : Decimal, (Located.found (.number number)).toDecimal.outcome = .ok d ∧
          (Located.found (.string text)).toDecimal.outcome = .ok d ∧
          d.toRat = roundAway 28 number.printed ∧
          (∀ k : Int, number.printed * 10 ^ 28 = k → d.toRat = number.printed) ∧
          ∀ other : Json.Number, other.printed = -number.printed →
            ∃ d', (Located.found (.number other)).toDecimal.outcome = .ok d' ∧
              d'.toRat = -d.toRat) ∧
      (79228162514264337593543950335 < |number.printed| →
        (Located.found (.number number)).toDecimal.outcome =
            .error (.outOfRange .decimal (String.ofList number.text)) ∧
          (Located.found (.string text)).toDecimal.outcome =
            .error (.unreadable .decimal text (.badDecimal .tooManyDigits))) := by
  refine ⟨String.ofList number.plain, rfl, ?_, ?_, fun le => ?_, outcome_toDecimal_eq_error⟩
  · obtain ⟨p, plain, value⟩ := number.exists_plain_eq
    rw [String.toList_ofList, plain, ← value]
    exact p.spells_text
  · rintro x rfl
    rw [Json.Number.abs_printed_float]
    exact x.exists_shortest_eq
  · obtain ⟨d, of_number, of_text, rounded⟩ := exists_toDecimal_eq_ok le
    refine ⟨d, of_number, of_text, rounded, fun k scaled => ?_, fun other opposite => ?_⟩
    · rw [rounded, roundAway_eq_self scaled]
    · rw [← abs_neg, ← opposite] at le
      obtain ⟨d', of_other, -, rounded'⟩ := exists_toDecimal_eq_ok le
      refine ⟨d', of_other, ?_⟩
      rw [rounded', opposite, roundAway_neg, rounded]

theorem toDecimal_number_rounds_tiny :
    ∃ d : Decimal, d.toRat = 2 / 10 ^ 28 ∧
      (Located.found
        (.number (.float ⟨false, 6690223559559187, -145, by decide⟩))).toDecimal.outcome =
          .ok d := by
  let tiny : Finite binary64 := ⟨false, 6690223559559187, -145, by decide⟩
  have shortest : tiny.shortest = ⟨15, -29⟩ := by decide +kernel
  have printed : (Json.Number.float tiny).printed = 15 / 10 ^ 29 := by
    show tiny.shortest.toRat = _
    rw [shortest, Binary.Scientific.toRat]
    norm_num
  obtain ⟨text, -, -, -, rounds, -⟩ := toDecimal_number_rounds (.float tiny)
  rw [printed] at rounds
  obtain ⟨d, of_number, -, rounded, -⟩ := rounds (by norm_num [abs_of_pos])
  refine ⟨d, ?_, of_number⟩
  rw [rounded, roundAway_of_nonneg (by norm_num)]
  norm_num

end DotPath
