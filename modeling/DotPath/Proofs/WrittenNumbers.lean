import DotPath.Proofs.PlainForm
import DotPath.Proofs.ShortestDecimal
import DotPath.Reading.Simple

/-!
The text of a number and its plain form.  A float is written as its shortest decimal, with an
exponent of at most three digits, so the text of every number spells one; and the text that a
number is read as is the plain form of the number printed.
-/

set_option autoImplicit false
set_option relaxedAutoImplicit false

namespace DotPath

open Binary (Finite Scientific binary64)

/-! Decimals as text -/

section Layout

variable {digits : List Char} {point : Int}

private theorem isNumeral_zero : Text.isNumeral ['0'] = true :=
  rfl

private theorem isNumeral_append {front back : List Char} (numeral : Text.isNumeral front = true)
    (all : ∀ c ∈ back, c.isDigit = true) : Text.isNumeral (front ++ back) = true := by
  obtain ⟨nonempty, digits⟩ := Text.isNumeral_iff.mp numeral
  refine Text.isNumeral_iff.mpr ⟨by simp [nonempty], ?_⟩
  exact List.forall_mem_append.mpr ⟨digits, all⟩

theorem spells_positional (numeral : Text.isNumeral digits = true) (point : Int) :
    SpellsMagnitude (Json.positional digits point)
      (Text.value digits * 10 ^ (point - digits.length)) := by
  obtain ⟨nonempty, all⟩ := Text.isNumeral_iff.mp numeral
  rw [← Numeral.value_split digits point]
  unfold Json.positional
  split
  next behind =>
    obtain ⟨place, rfl⟩ := Int.eq_ofNat_of_zero_le ((Int.natCast_nonneg _).trans behind)
    have le : digits.length ≤ place := by omega
    have zeros : ((place : Int) - digits.length).toNat = place - digits.length := by omega
    have none : (-(place : Int)).toNat = 0 := by omega
    rw [Int.toNat_natCast, zeros, none, List.take_of_length_le le, List.drop_eq_nil_of_le le]
    have spelled := SpellsMagnitude.pointed
      (isNumeral_append numeral (Text.isDigit_zeros (place - digits.length))) isNumeral_zero
    simpa [Text.value_singleton, Text.digitValue] using spelled
  next inside =>
    split
    next within =>
      obtain ⟨place, rfl⟩ := Int.eq_ofNat_of_zero_le within.le
      have less : place < digits.length := by omega
      have some : 0 < place := by omega
      have none : (-(place : Int)).toNat = 0 := by omega
      rw [Int.toNat_natCast, none, Nat.sub_eq_zero_of_le less.le, List.replicate_zero,
        List.append_nil, List.nil_append]
      refine .pointed (Text.isNumeral_iff.mpr ⟨?_, ?_⟩) (Text.isNumeral_iff.mpr ⟨?_, ?_⟩)
      · simp [nonempty, some.ne']
      · exact fun c member => all c (List.mem_of_mem_take member)
      · simp [less]
      · exact fun c member => all c (List.mem_of_mem_drop member)
    next before =>
      have zero : point.toNat = 0 := by omega
      rw [zero, List.take_zero, List.nil_append, List.drop_zero, Nat.zero_sub, List.replicate_zero,
        Text.value_nil]
      have part : Text.isNumeral (List.replicate (-point).toNat '0' ++ digits) = true :=
        Text.isNumeral_iff.mpr ⟨by simp [nonempty],
          List.forall_mem_append.mpr ⟨Text.isDigit_zeros _, all⟩⟩
      have spelled := SpellsMagnitude.pointed isNumeral_zero part
      simpa [Text.value_singleton, Text.digitValue] using spelled

theorem spellsExponent_signed {exponent : Int} (inReach : exponent.natAbs ≤ exponentReach) :
    SpellsExponent ('e' :: (if exponent < 0 then '-' else '+') :: Text.digits exponent.natAbs)
      exponent := by
  refine .marked (.inl rfl) ?_ inReach
  have numeral := Text.isNumeral_digits exponent.natAbs
  split
  next negative =>
    refine spellsInteger_minus_iff.mpr ⟨numeral, ?_⟩
    rw [Text.value_digits]
    omega
  next nonnegative =>
    refine spellsInteger_plus_iff.mpr ⟨numeral, ?_⟩
    rw [Text.value_digits]
    omega

theorem exists_spells_exponential (numeral : Text.isNumeral digits = true) {exponent : Int}
    (inReach : exponent.natAbs ≤ exponentReach) :
    ∃ mantissa tail, Json.exponential digits exponent = mantissa ++ tail ∧
      SpellsMagnitude mantissa (Text.value digits * 10 ^ (1 - digits.length : Int)) ∧
      SpellsExponent tail exponent := by
  obtain ⟨nonempty, all⟩ := Text.isNumeral_iff.mp numeral
  unfold Json.exponential
  refine ⟨_, _, rfl, ?_, spellsExponent_signed inReach⟩
  split
  next first second rest =>
    have head : Text.isNumeral [first] = true :=
      Text.isNumeral_iff.mpr ⟨List.cons_ne_nil _ _, by simpa using all first List.mem_cons_self⟩
    have part : Text.isNumeral (second :: rest) = true :=
      Text.isNumeral_iff.mpr ⟨List.cons_ne_nil _ _, (List.forall_mem_cons.mp all).2⟩
    rw [← Numeral.value_split (first :: second :: rest) 1]
    simpa using SpellsMagnitude.pointed head part
  next short =>
    obtain ⟨c, rest, rfl⟩ := List.exists_cons_of_ne_nil nonempty
    cases rest with
    | nil => simpa using SpellsMagnitude.whole numeral
    | cons second rest => exact absurd rfl (short c second rest)

theorem exists_spells_decimalText {d : Scientific} (inReach : d.significand ≠ 0 →
      ((Text.digits d.significand).length + d.exponent - 1).natAbs ≤ exponentReach) :
    ∃ mantissa tail q k, Json.decimalText d = mantissa ++ tail ∧ SpellsMagnitude mantissa q ∧
      SpellsExponent tail k ∧ q * 10 ^ k = d.toRat := by
  have numeral := Text.isNumeral_digits d.significand
  unfold Json.decimalText Scientific.toRat
  split
  next zero =>
    have spelled := SpellsMagnitude.pointed isNumeral_zero isNumeral_zero
    refine ⟨_, [], _, 0, (List.append_nil _).symm, spelled, .none, ?_⟩
    simp [zero, Text.value_singleton, Text.digitValue]
  next nonzero =>
    have value := Text.value_digits d.significand
    have reached := inReach nonzero
    clear inReach
    dsimp only
    generalize Text.digits d.significand = digits at *
    rw [← value]
    split
    next positional =>
      refine ⟨_, [], _, 0, (List.append_nil _).symm, spells_positional numeral _, .none, ?_⟩
      rw [zpow_zero, mul_one, add_sub_cancel_left]
    next exponential =>
      obtain ⟨mantissa, tail, split, spelled, exponent⟩ :=
        exists_spells_exponential numeral reached
      refine ⟨mantissa, tail, _, _, split, spelled, exponent, ?_⟩
      rw [mul_assoc, ← zpow_add₀ (by norm_num)]
      congr 2
      ring

end Layout

/-! Numbers as text -/

namespace Binary.Finite

variable {x : Finite binary64}

private theorem two_zpow_lt_ten_zpow {k : Int} (le : k ≤ 1075) :
    (2 : ℚ) ^ k < 10 ^ (exponentReach : Int) := by
  calc (2 : ℚ) ^ k ≤ 2 ^ (3 * exponentReach : Int) :=
        zpow_le_zpow_right₀ (by norm_num) (le.trans (by decide))
    _ = (2 ^ (3 : Int)) ^ (exponentReach : Int) := zpow_mul 2 3 _
    _ < 10 ^ (exponentReach : Int) := zpow_lt_zpow_left₀ (by decide) (by norm_num) (by norm_num)

theorem lt_halfUnit (x : Finite binary64) : (10 : ℚ) ^ (-exponentReach : Int) < x.halfUnit := by
  have least : -1074 ≤ x.exponent := x.canonical.2.1
  have inverse : x.halfUnit = (2 ^ (1 - x.exponent))⁻¹ := by
    unfold halfUnit
    rw [← zpow_neg]
    congr 1
    ring
  rw [inverse, zpow_neg]
  exact inv_strictAnti₀ (by positivity) (two_zpow_lt_ten_zpow (by omega))

theorem magnitude_add_halfUnit_lt (x : Finite binary64) :
    x.magnitude + x.halfUnit < 10 ^ (exponentReach : Int) := by
  have fits : (x.significand : ℚ) + 1 ≤ 2 ^ 53 := by
    have : x.significand + 1 ≤ 2 ^ 53 := x.canonical.1
    exact_mod_cast this
  have most : x.exponent ≤ 971 := x.canonical.2.2.1
  have pos := x.halfUnit_pos
  have power : (2 : ℚ) ^ (53 + x.exponent) = 2 ^ 53 * (2 * x.halfUnit) := by
    unfold halfUnit
    rw [zpow_add₀ (by norm_num), zpow_sub_one₀ (by norm_num)]
    norm_num
    ring
  calc x.magnitude + x.halfUnit = (2 * x.significand + 1) * x.halfUnit := by
        rw [x.magnitude_eq]
        ring
    _ ≤ 2 ^ 53 * (2 * x.halfUnit) := by
        rw [← mul_assoc]
        gcongr
        linarith
    _ = 2 ^ (53 + x.exponent) := power.symm
    _ < 10 ^ (exponentReach : Int) := two_zpow_lt_ten_zpow (by omega)

/-- The exponent in the text of a float is in reach, as the float is neither too great nor too small
for it. -/
theorem shortest_inReach (nonzero : x.shortest.significand ≠ 0) :
    ((Text.digits x.shortest.significand).length + x.shortest.exponent - 1).natAbs ≤
      exponentReach := by
  have positive : x.significand ≠ 0 := by
    intro zero
    apply nonzero
    unfold shortest
    rw [if_pos zero]
  have one : (1 : ℚ) ≤ x.significand := by exact_mod_cast Nat.pos_of_ne_zero positive
  have pos := x.halfUnit_pos
  have least := x.lt_halfUnit
  have most := x.magnitude_add_halfUnit_lt
  have near := abs_le.mp x.abs_shortest_sub_le
  have above : x.halfUnit ≤ x.magnitude - x.halfUnit := by
    rw [x.magnitude_eq]
    linarith [mul_le_mul_of_nonneg_right one pos.le]
  obtain ⟨low, high⟩ := digits_between (Nat.pos_of_ne_zero nonzero)
  have unit : (0 : ℚ) < 10 ^ x.shortest.exponent := by positivity
  have value : x.shortest.toRat = x.shortest.significand * 10 ^ x.shortest.exponent := rfl
  generalize (Text.digits x.shortest.significand).length = count at *
  -- the first digit stands for a power of ten that is at most the decimal, and the next is greater
  have upper : (count - 1 + x.shortest.exponent : Int) < exponentReach := by
    rw [← zpow_lt_zpow_iff_right₀ (a := (10 : ℚ)) (by norm_num), zpow_add₀ (by norm_num)]
    have scaled := mul_le_mul_of_nonneg_right low unit.le
    linarith
  have lower : (-exponentReach : Int) < count + x.shortest.exponent := by
    rw [← zpow_lt_zpow_iff_right₀ (a := (10 : ℚ)) (by norm_num), zpow_add₀ (by norm_num)]
    have scaled := mul_lt_mul_of_pos_right high unit
    linarith
  omega

end Binary.Finite

theorem spells_floatText (x : Finite binary64) :
    SpellsNumber (Json.floatText x)
      (if x.negative then -x.shortest.toRat else x.shortest.toRat) := by
  obtain ⟨mantissa, tail, q, k, split, magnitude, exponent, value⟩ :=
    exists_spells_decimalText (d := x.shortest) Finite.shortest_inReach
  unfold Json.floatText
  rw [split, ← value]
  cases x.negative with
  | false => exact .positive magnitude exponent
  | true => exact .negative magnitude exponent

namespace Json.Number

def printed : Number → ℚ
  | .integer k _ => k
  | .float x => if x.negative then -x.shortest.toRat else x.shortest.toRat

theorem spells_text (number : Number) : SpellsNumber number.text number.printed := by
  cases number with
  | integer k exact => exact PlainNumber.spells_signedDigits k
  | float x => exact spells_floatText x

theorem plain_eq_plainText (number : Number) : number.plain = plainText number.text := by
  cases number with
  | integer k exact =>
    show Text.signedDigits k = plainText (Text.signedDigits k)
    rw [← PlainNumber.text_ofInt, PlainNumber.plainText_text]
  | float x => rfl

theorem exists_plain_eq (number : Number) :
    ∃ p : PlainNumber, number.plain = p.text ∧ p.toRat = number.printed := by
  rw [plain_eq_plainText]
  exact exists_plainText_eq number.spells_text

end Json.Number

/-- A text that spells a number has a plain form, which spells the same number and has a plain form
no other than itself.  Two texts have one plain form exactly if they spell one number; so two
numbers are read as one text, be they integers or floats, exactly if they are printed as one
number. -/
theorem plainText_canonical :
    (∀ text q, SpellsNumber text q →
      (∃ p : PlainNumber, plainText text = p.text ∧ p.toRat = q) ∧
        SpellsNumber (plainText text) q ∧ plainText (plainText text) = plainText text) ∧
    (∀ text p other q, SpellsNumber text p → SpellsNumber other q →
      (plainText text = plainText other ↔ p = q)) ∧
    (∀ number : Json.Number, SpellsNumber number.text number.printed ∧
      Located.toText (.found (.number number)) =
        some (String.ofList (plainText number.text))) ∧
    ∀ first second : Json.Number,
      Located.toText (.found (.number first)) = Located.toText (.found (.number second)) ↔
        first.printed = second.printed := by
  refine ⟨fun text q spells => ?_, fun text p other q => plainText_eq_iff,
    fun number => ⟨number.spells_text, ?_⟩, fun first second => ?_⟩
  · obtain ⟨p, plain, rfl⟩ := exists_plainText_eq spells
    rw [plain]
    exact ⟨⟨p, rfl, rfl⟩, p.spells_text, p.plainText_text⟩
  · rw [← number.plain_eq_plainText]
    rfl
  · rw [← plainText_eq_iff first.spells_text second.spells_text, ← first.plain_eq_plainText,
      ← second.plain_eq_plainText]
    exact Option.some_inj.trans String.ofList_inj

theorem plainText_canonical_minus_twelve :
    SpellsNumber ['-', '1', '.', '2', '0', 'e', '1'] (-12) ∧
      plainText ['-', '1', '.', '2', '0', 'e', '1'] = ['-', '1', '2'] := by
  have mantissa : SpellsMagnitude ['1', '.', '2', '0'] (6 / 5) := by
    convert SpellsMagnitude.pointed (show Text.isNumeral ['1'] = true from rfl)
      (show Text.isNumeral ['2', '0'] = true from rfl) using 1
    · rfl
    · have one : Text.value ['1'] = 1 := rfl
      have twenty : Text.value ['2', '0'] = 20 := rfl
      norm_num [one, twenty]
  have one : SpellsInteger ['1'] 1 := .bare rfl
  have spelled : SpellsNumber ['-', '1', '.', '2', '0', 'e', '1'] (-12) := by
    convert SpellsNumber.negative mantissa (.marked (.inl rfl) one (by decide)) using 1
    · rfl
    · norm_num
  have integer : SpellsNumber ['-', '1', '2'] (-12) := by
    exact_mod_cast PlainNumber.spells_signedDigits (-12)
  exact ⟨spelled, (plainText_canonical.2.1 _ _ _ _ spelled integer).mpr rfl⟩

end DotPath
