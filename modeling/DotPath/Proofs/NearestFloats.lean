import DotPath.Proofs.ReadingBack

/-!
Rounding gives the nearest float.  What a quotient is rounded to depends on its value alone, may be
found with any unit that holds it, and is no further from it than any other float; of two that are
equally near it is the one with an even significand.
-/

set_option autoImplicit false
set_option relaxedAutoImplicit false

namespace DotPath.Binary

/-! The nearest natural number -/

section RoundHalfEven

variable {numerator denominator : Nat}

theorem abs_sub_roundHalfEven_le (numerator : Nat) (pos : 0 < denominator) :
    |(numerator : ℚ) / denominator - roundHalfEven numerator denominator| ≤ 1 / 2 := by
  obtain ⟨low, high⟩ := roundHalfEven_near numerator pos
  have bottom : (0 : ℚ) < denominator := by exact_mod_cast pos
  have low_cast : 2 * ((roundHalfEven numerator denominator : ℚ) * denominator) ≤
      2 * numerator + denominator := by exact_mod_cast low
  have high_cast : 2 * (numerator : ℚ) ≤
      2 * (roundHalfEven numerator denominator * denominator) + denominator := by
    exact_mod_cast high
  rw [abs_le]
  constructor
  · rw [le_sub_iff_add_le, le_div_iff₀ bottom]
    linarith
  · rw [sub_le_iff_le_add, div_le_iff₀ bottom]
    linarith

theorem roundHalfEven_tie_before (pos : 0 < denominator)
    (tie : 2 * numerator + denominator = 2 * (roundHalfEven numerator denominator * denominator)) :
    roundHalfEven numerator denominator % 2 = 0 := by
  have split : numerator / denominator * denominator + numerator % denominator = numerator :=
    Nat.div_add_mod' numerator denominator
  rcases roundHalfEven_cases numerator denominator with ⟨down, low⟩ | ⟨up, high⟩
  · rw [down] at tie
    omega
  · have middle : 2 * (numerator % denominator) = denominator := by
      rw [up, Nat.add_mul, Nat.one_mul] at tie
      omega
    have odd : numerator / denominator % 2 ≠ 0 := by
      intro even
      simp [roundHalfEven, middle, even] at up
    rw [up]
    omega

theorem even_of_abs_sub_roundHalfEven (pos : 0 < denominator)
    (tie : |(numerator : ℚ) / denominator - roundHalfEven numerator denominator| = 1 / 2) :
    roundHalfEven numerator denominator % 2 = 0 := by
  have bottom : (denominator : ℚ) ≠ 0 := by exact_mod_cast pos.ne'
  have whole : (numerator : ℚ) / denominator * denominator = numerator :=
    div_mul_cancel₀ _ bottom
  rcases (abs_eq (by norm_num)).mp tie with behind | before
  · apply roundHalfEven_tie pos
    have equal : 2 * (numerator : ℚ) =
        2 * (roundHalfEven numerator denominator * denominator) + denominator := by
      rw [← whole, sub_eq_iff_eq_add.mp behind]
      ring
    exact_mod_cast equal
  · apply roundHalfEven_tie_before pos
    have equal : 2 * (numerator : ℚ) + denominator =
        2 * (roundHalfEven numerator denominator * denominator) := by
      rw [← whole, sub_eq_iff_eq_add.mp before]
      ring
    exact_mod_cast equal

/-- Other natural numbers are no nearer, and if one is as near, then it is a tie. -/
theorem abs_sub_roundHalfEven_le_natCast (numerator : Nat) (pos : 0 < denominator) (n : Nat) :
    |(numerator : ℚ) / denominator - roundHalfEven numerator denominator| ≤
        |(numerator : ℚ) / denominator - n| ∧
      (n ≠ roundHalfEven numerator denominator →
        |(numerator : ℚ) / denominator - n| =
            |(numerator : ℚ) / denominator - roundHalfEven numerator denominator| →
          roundHalfEven numerator denominator % 2 = 0) := by
  have near := abs_sub_roundHalfEven_le numerator pos
  have even := @even_of_abs_sub_roundHalfEven numerator denominator pos
  generalize roundHalfEven numerator denominator = r at *
  rcases eq_or_ne n r with rfl | other
  · exact ⟨le_rfl, fun different => absurd rfl different⟩
  · have apart : (1 : ℚ) ≤ |(r : ℚ) - n| := by
      have whole : (1 : Int) ≤ |(r : Int) - n| := Int.one_le_abs (by omega)
      exact_mod_cast whole
    have triangle := abs_sub_le (r : ℚ) ((numerator : ℚ) / denominator) n
    rw [abs_sub_comm (r : ℚ) (numerator / denominator)] at triangle
    refine ⟨by linarith, fun _ same => even ?_⟩
    linarith

theorem roundHalfEven_congr {other otherDenominator : Nat} (pos : 0 < denominator)
    (otherPos : 0 < otherDenominator)
    (same : (numerator : ℚ) / denominator = other / otherDenominator) :
    roundHalfEven numerator denominator = roundHalfEven other otherDenominator := by
  apply roundHalfEven_eq_of_near pos
  · rw [same]
    exact abs_sub_roundHalfEven_le other otherPos
  · rw [same]
    exact even_of_abs_sub_roundHalfEven otherPos

theorem roundHalfEven_of_eq_natCast {n : Nat} (pos : 0 < denominator)
    (whole : (numerator : ℚ) / denominator = n) : roundHalfEven numerator denominator = n := by
  apply roundHalfEven_eq_of_near pos
  · rw [whole, sub_self, abs_zero]
    norm_num
  · rw [whole, sub_self, abs_zero]
    norm_num

end RoundHalfEven

/-! Rounding by value -/

section Nearest

variable {f : Format} {numerator denominator : Nat}

theorem unitExponent_eq (numeratorPos : 0 < numerator) (pos : 0 < denominator) {exponent : Int}
    (least : f.minExponent ≤ exponent)
    (high : (numerator : ℚ) / denominator < 2 ^ (f.precision + exponent))
    (normal : exponent = f.minExponent ∨
      2 ^ (f.precision - 1 + exponent) ≤ (numerator : ℚ) / denominator) :
    f.unitExponent numerator denominator = exponent := by
  obtain ⟨unit_least, unit_high, unit_normal⟩ := unitExponent_spec (f := f) numeratorPos pos
  generalize f.unitExponent numerator denominator = unit at *
  have one : (1 : ℚ) < 2 := by norm_num
  rcases lt_trichotomy unit exponent with less | same | greater
  · have above := normal.resolve_left (by omega)
    have := (zpow_lt_zpow_iff_right₀ one).mp (above.trans_lt unit_high)
    omega
  · exact same
  · have above := unit_normal.resolve_left (by omega)
    have := (zpow_lt_zpow_iff_right₀ one).mp (above.trans_lt high)
    omega

theorem nearest_congr {other otherDenominator : Nat} (pos : 0 < denominator)
    (otherPos : 0 < otherDenominator)
    (same : (numerator : ℚ) / denominator = other / otherDenominator) (negative : Bool) :
    f.nearest negative numerator denominator = f.nearest negative other otherDenominator := by
  have bottom : (denominator : ℚ) ≠ 0 := by exact_mod_cast pos.ne'
  have otherBottom : (otherDenominator : ℚ) ≠ 0 := by exact_mod_cast otherPos.ne'
  have zero_iff : numerator = 0 ↔ other = 0 := by
    have products : numerator * otherDenominator = other * denominator := by
      rw [div_eq_div_iff bottom otherBottom] at same
      exact_mod_cast same
    constructor
    · rintro rfl
      rw [Nat.zero_mul] at products
      exact (Nat.mul_eq_zero.mp products.symm).resolve_right pos.ne'
    · rintro rfl
      rw [Nat.zero_mul] at products
      exact (Nat.mul_eq_zero.mp products).resolve_right otherPos.ne'
  rcases Nat.eq_zero_or_pos numerator with zero | numeratorPos
  · simp [Format.nearest, zero, zero_iff.mp zero]
  have otherNumeratorPos : 0 < other := by omega
  have unit : f.unitExponent numerator denominator = f.unitExponent other otherDenominator := by
    obtain ⟨least, high, normal⟩ := unitExponent_spec (f := f) otherNumeratorPos otherPos
    rw [← same] at high normal
    exact unitExponent_eq numeratorPos pos least high normal
  have rounded : f.rounded numerator denominator = f.rounded other otherDenominator := by
    unfold Format.rounded
    rw [unit]
    apply roundHalfEven_congr (inUnits_snd_pos numerator pos _) (inUnits_snd_pos other otherPos _)
    rw [inUnits_quotient, inUnits_quotient, same]
  rw [nearest_eq_assemble numeratorPos, nearest_eq_assemble otherNumeratorPos, unit, rounded]

theorem assemble_full_eq (f : Format) (negative : Bool) (exponent : Int) (wide : 0 < f.precision) :
    f.assemble negative (2 ^ f.precision) exponent =
      f.assemble negative (2 ^ (f.precision - 1)) (exponent + 1) := by
  have less : 2 ^ (f.precision - 1) < 2 ^ f.precision := Nat.pow_lt_pow_right (by decide) (by omega)
  unfold Format.assemble
  simp only [if_true, if_neg less.ne]

theorem roundHalfEven_of_eq_two_pow (pos : 0 < denominator) {count : Nat} {exponent : Int}
    (equal : (numerator : ℚ) / denominator = 2 ^ (count + exponent)) :
    roundHalfEven (inUnits numerator denominator exponent).1
      (inUnits numerator denominator exponent).2 = 2 ^ count := by
  apply roundHalfEven_of_eq_natCast (inUnits_snd_pos numerator pos _)
  rw [inUnits_quotient, equal, zpow_add₀ (by norm_num), zpow_natCast]
  push_cast
  field_simp

/-- A quotient may be rounded in any unit in which it has as many bits as the significand, or is the
next power of two. -/
theorem nearest_eq_assemble_of_unit (wide : 0 < f.precision) (numeratorPos : 0 < numerator)
    (pos : 0 < denominator) {exponent : Int} (least : f.minExponent ≤ exponent)
    (high : (numerator : ℚ) / denominator ≤ 2 ^ (f.precision + exponent))
    (normal : 2 ^ (f.precision - 1 + exponent) ≤ (numerator : ℚ) / denominator) (negative : Bool) :
    f.nearest negative numerator denominator =
      f.assemble negative
        (roundHalfEven (inUnits numerator denominator exponent).1
          (inUnits numerator denominator exponent).2) exponent := by
  have one : (1 : ℚ) < 2 := by norm_num
  rw [nearest_eq_assemble numeratorPos]
  unfold Format.rounded
  rcases high.lt_or_eq with less | equal
  · rw [unitExponent_eq numeratorPos pos least less (.inr normal)]
  · have unit : f.unitExponent numerator denominator = exponent + 1 := by
      apply unitExponent_eq numeratorPos pos (by omega)
      · rw [equal]
        exact zpow_lt_zpow_right₀ one (by omega)
      · rw [equal]
        exact .inr (zpow_le_zpow_right₀ one.le (by omega))
    have as_unit : (f.precision : Int) + exponent = f.precision - 1 + (exponent + 1) := by ring
    have cast : (f.precision : Int) - 1 = (f.precision - 1 : Nat) := by omega
    rw [unit, roundHalfEven_of_eq_two_pow pos equal, assemble_full_eq f negative exponent wide,
      roundHalfEven_of_eq_two_pow pos (equal.trans (by rw [as_unit, cast]))]

end Nearest

/-! The nearest float -/

namespace Finite

/-- A float that is nearest to a number: no other is nearer, and if another is as near, then this is
the one with the even significand. -/
structure IsNearest {f : Format} (x : Finite f) (q : ℚ) : Prop where
  least (y : Finite f) : |q - x.toRat| ≤ |q - y.toRat|
  even (y : Finite f) (other : y.toRat ≠ x.toRat) (tie : |q - y.toRat| = |q - x.toRat|) :
    x.significand % 2 = 0

theorem magnitude_zero (f : Format) (negative : Bool) : (zero f negative).magnitude = 0 := by
  simp [magnitude, zero]

theorem toRat_zero (f : Format) (negative : Bool) : (zero f negative).toRat = 0 := by
  rw [toRat_eq, magnitude_zero, neg_zero, ite_self]

end Finite

section Assemble

variable {f : Format} {significand : Nat} {exponent : Int} {negative : Bool} {x : Finite f}

theorem of_assemble (wide : 2 ≤ f.precision)
    (assembled : f.assemble negative significand exponent = .finite x) :
    x.negative = negative ∧ x.magnitude = significand * 2 ^ exponent ∧
      (significand % 2 = 0 → x.significand % 2 = 0) := by
  unfold Format.assemble at assembled
  by_cases full : significand = 2 ^ f.precision
  · have halves := f.two_pow_precision (by omega)
    have even : 2 ^ (f.precision - 1) % 2 = 0 := by
      rw [← Nat.sub_add_cancel (show 1 ≤ f.precision - 1 by omega), Nat.pow_succ, Nat.mul_mod_left]
    simp only [if_pos full] at assembled
    split at assembled
    next canonical =>
      cases assembled
      refine ⟨rfl, ?_, fun _ => even⟩
      show ((2 ^ (f.precision - 1) : Nat) : ℚ) * 2 ^ (exponent + 1) = significand * 2 ^ exponent
      rw [full, halves, zpow_add_one₀ (by norm_num)]
      push_cast
      ring
    next => cases assembled
  · simp only [if_neg full] at assembled
    split at assembled
    next canonical =>
      cases assembled
      exact ⟨rfl, rfl, id⟩
    next => cases assembled

end Assemble

section Nearest

variable {f : Format} {numerator denominator : Nat} {negative : Bool} {x : Finite f}

theorem Finite.magnitude_lt_of_exponent_lt {exponent : Int} (y : Finite f)
    (less : y.exponent < exponent) : y.magnitude < 2 ^ (f.precision - 1 + exponent) := by
  have one : (1 : ℚ) ≤ 2 := by norm_num
  have fits : (y.significand : ℚ) < 2 ^ f.precision := by
    have := y.significand_succ_le
    linarith
  unfold magnitude
  calc (y.significand : ℚ) * 2 ^ y.exponent < 2 ^ f.precision * 2 ^ y.exponent := by gcongr
    _ = 2 ^ (f.precision + y.exponent : Int) := by rw [zpow_add₀ (by norm_num), zpow_natCast]
    _ ≤ 2 ^ (f.precision - 1 + exponent : Int) := zpow_le_zpow_right₀ one (by omega)

theorem Finite.exists_magnitude_eq_mul {exponent : Int} (y : Finite f)
    (le : exponent ≤ y.exponent) : ∃ n : Nat, y.magnitude = n * 2 ^ exponent := by
  obtain ⟨count, same⟩ := Int.le.dest le
  refine ⟨y.significand * 2 ^ count, ?_⟩
  unfold magnitude
  rw [← same, zpow_add₀ (by norm_num), zpow_natCast]
  push_cast
  ring

theorem abs_sub_mul_unit (numerator denominator : Nat) (exponent : Int) (n : Nat) :
    |(numerator : ℚ) / denominator - n * 2 ^ exponent| =
      |((inUnits numerator denominator exponent).1 : ℚ) /
        (inUnits numerator denominator exponent).2 - n| * 2 ^ exponent := by
  have unit : (0 : ℚ) < 2 ^ exponent := by positivity
  rw [inUnits_quotient, ← abs_of_pos unit, ← abs_mul, abs_of_pos unit, sub_mul,
    div_mul_cancel₀ _ unit.ne']

/-- The magnitudes of floats are no nearer to a quotient than that of the float that it is rounded
to; and if another is as near, that float is even. -/
theorem magnitude_nearest (wide : 2 ≤ f.precision) (pos : 0 < denominator)
    (rounded : f.nearest negative numerator denominator = .finite x) (y : Finite f) :
    |(numerator : ℚ) / denominator - x.magnitude| ≤ |(numerator : ℚ) / denominator - y.magnitude| ∧
      (y.magnitude ≠ x.magnitude →
        |(numerator : ℚ) / denominator - y.magnitude| =
            |(numerator : ℚ) / denominator - x.magnitude| →
          x.significand % 2 = 0) := by
  rcases Nat.eq_zero_or_pos numerator with rfl | numeratorPos
  · cases rounded
    rw [Finite.magnitude_zero, Nat.cast_zero, zero_div, sub_self, abs_zero, zero_sub, abs_neg]
    exact ⟨abs_nonneg _, fun other same => absurd (abs_eq_zero.mp same) other⟩
  obtain ⟨least, -, normal⟩ := unitExponent_spec (f := f) numeratorPos pos
  rw [nearest_eq_assemble numeratorPos] at rounded
  obtain ⟨-, magnitude, even⟩ := of_assemble wide rounded
  unfold Format.rounded at magnitude even
  dsimp only at magnitude even
  generalize f.unitExponent numerator denominator = exponent at *
  have unit : (0 : ℚ) < 2 ^ exponent := by positivity
  have distance := abs_sub_mul_unit numerator denominator exponent
  have nearest := abs_sub_roundHalfEven_le_natCast (inUnits numerator denominator exponent).1
    (inUnits_snd_pos numerator pos exponent)
  generalize roundHalfEven (inUnits numerator denominator exponent).1
    (inUnits numerator denominator exponent).2 = significand at *
  rcases le_or_gt exponent y.exponent with le | less
  · -- a float with no smaller unit is a whole number of units
    obtain ⟨n, multiple⟩ := y.exists_magnitude_eq_mul le
    rw [magnitude, multiple, distance, distance]
    refine ⟨mul_le_mul_of_nonneg_right (nearest n).1 unit.le, fun other tie => even ?_⟩
    refine (nearest n).2 ?_ (mul_right_cancel₀ unit.ne' tie)
    rintro rfl
    exact other rfl
  · -- a float with a smaller unit is further away than the least float of the unit
    have above := normal.resolve_left (y.canonical.2.1.trans_lt less).ne'
    have below := y.magnitude_lt_of_exponent_lt less
    have cast : (f.precision : Int) - 1 = (f.precision - 1 : Nat) := by omega
    have bound : (2 : ℚ) ^ (f.precision - 1 + exponent : Int) =
        ((2 ^ (f.precision - 1) : Nat) : ℚ) * 2 ^ exponent := by
      rw [cast, zpow_add₀ (by norm_num), zpow_natCast]
      push_cast
      rfl
    have closer : |(numerator : ℚ) / denominator - x.magnitude| <
        |(numerator : ℚ) / denominator - y.magnitude| := by
      calc |(numerator : ℚ) / denominator - x.magnitude|
          ≤ |(numerator : ℚ) / denominator - (2 ^ (f.precision - 1) : Nat) * 2 ^ exponent| := by
            rw [magnitude, distance, distance]
            exact mul_le_mul_of_nonneg_right (nearest _).1 unit.le
        _ = numerator / denominator - 2 ^ (f.precision - 1 + exponent : Int) := by
            rw [← bound]
            exact abs_of_nonneg (sub_nonneg.mpr above)
        _ < numerator / denominator - y.magnitude := by linarith
        _ ≤ |(numerator : ℚ) / denominator - y.magnitude| := le_abs_self _
    exact ⟨closer.le, fun _ tie => absurd tie closer.ne'⟩

theorem negative_of_nearest (wide : 2 ≤ f.precision)
    (rounded : f.nearest negative numerator denominator = .finite x) : x.negative = negative := by
  rcases Nat.eq_zero_or_pos numerator with rfl | numeratorPos
  · cases rounded
    rfl
  · rw [nearest_eq_assemble numeratorPos] at rounded
    exact (of_assemble wide rounded).1

theorem isNearest_nearest (wide : 2 ≤ f.precision) (pos : 0 < denominator)
    (rounded : f.nearest negative numerator denominator = .finite x) {q : ℚ}
    (value : (if negative then -((numerator : ℚ) / denominator) else numerator / denominator) = q) :
    x.IsNearest q := by
  have magnitudes := magnitude_nearest wide pos rounded
  have sign := negative_of_nearest wide rounded
  have size : |q| = numerator / denominator := by
    have nonneg : (0 : ℚ) ≤ numerator / denominator := by positivity
    rw [← value]
    split
    · rw [abs_neg, abs_of_nonneg nonneg]
    · exact abs_of_nonneg nonneg
  have own : |q - x.toRat| = |(numerator : ℚ) / denominator - x.magnitude| := by
    rw [← value, x.toRat_eq, sign]
    cases negative with
    | false => rfl
    | true => rw [if_pos rfl, if_pos rfl, ← neg_sub', abs_neg]
  have others (y : Finite f) :
      |(numerator : ℚ) / denominator - y.magnitude| ≤ |q - y.toRat| := by
    rw [← size, ← y.abs_toRat]
    exact abs_abs_sub_abs_le_abs_sub q y.toRat
  have least (y : Finite f) : |q - x.toRat| ≤ |q - y.toRat| := by
    rw [own]
    exact (magnitudes y).1.trans (others y)
  refine ⟨least, fun y other tie => ?_⟩
  by_cases same : y.magnitude = x.magnitude
  · -- an opposite is as near to zero alone, and only zero is nearest to that
    rw [← y.abs_toRat, ← x.abs_toRat] at same
    have opposite : y.toRat = -x.toRat := (abs_eq_abs.mp same).resolve_left other
    have zero : q = 0 := by
      rcases abs_eq_abs.mp tie with equal | negated
      · exact absurd (sub_right_injective equal) other
      · linarith
    have nearest_zero := least (.zero f false)
    rw [zero, Finite.toRat_zero, sub_zero, abs_zero, zero_sub, abs_neg, abs_nonpos_iff]
      at nearest_zero
    rw [nearest_zero, neg_zero] at opposite
    exact absurd (opposite.trans nearest_zero.symm) other
  · refine (magnitudes y).2 same (le_antisymm ?_ (magnitudes y).1)
    rw [← own, ← tie]
    exact others y

end Nearest

theorem isNearest_ofInt {f : Format} (wide : 2 ≤ f.precision) {k : Int} {x : Finite f}
    (rounded : f.ofInt k = .finite x) : x.IsNearest k := by
  refine isNearest_nearest wide Nat.one_pos rounded ?_
  rw [Nat.cast_one, div_one, Nat.cast_natAbs]
  rcases lt_or_ge k 0 with negative | nonneg
  · simp [negative, abs_of_neg]
  · simp [nonneg.not_gt, abs_of_nonneg nonneg]

theorem isNearest_convert {f g : Format} (wide : 2 ≤ g.precision) {x : Finite f} {y : Finite g}
    (converted : x.convert g = .finite y) : y.IsNearest x.toRat := by
  have pos : 0 < x.ratio.2 := Nat.two_pow_pos _
  refine isNearest_nearest wide pos converted ?_
  rw [x.ratio_quotient, x.toRat_eq]

end DotPath.Binary
