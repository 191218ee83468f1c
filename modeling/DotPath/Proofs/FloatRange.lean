import DotPath.Binary.Literal
import DotPath.Proofs.IntegerReading
import Mathlib.Algebra.Order.Field.Power
import Mathlib.Data.Rat.Cast.Order
import Mathlib.Tactic.FieldSimp
import Mathlib.Tactic.Linarith
import Mathlib.Tactic.NormNum
import Mathlib.Tactic.Positivity
import Mathlib.Tactic.Ring

/-!
The range of a binary format.  Rounding gives an infinity exactly from the middle between the
greatest finite datum and the next power of two on, as that middle goes to the even side; everything
below is rounded to a finite datum.
-/

set_option autoImplicit false
set_option relaxedAutoImplicit false

namespace DotPath.Binary

/-! Rounding to natural numbers -/

section RoundHalfEven

variable {numerator denominator : Nat}

theorem roundHalfEven_cases (numerator denominator : Nat) :
    (roundHalfEven numerator denominator = numerator / denominator ∧
        2 * (numerator % denominator) ≤ denominator) ∨
      (roundHalfEven numerator denominator = numerator / denominator + 1 ∧
        denominator ≤ 2 * (numerator % denominator)) := by
  unfold roundHalfEven
  dsimp only
  split
  · exact .inl ⟨rfl, by omega⟩
  · split
    · exact .inr ⟨rfl, by omega⟩
    · split
      · exact .inl ⟨rfl, by omega⟩
      · exact .inr ⟨rfl, by omega⟩

theorem roundHalfEven_near (numerator : Nat) (pos : 0 < denominator) :
    2 * (roundHalfEven numerator denominator * denominator) ≤ 2 * numerator + denominator ∧
      2 * numerator ≤ 2 * (roundHalfEven numerator denominator * denominator) + denominator := by
  have split : numerator / denominator * denominator + numerator % denominator = numerator :=
    Nat.div_add_mod' numerator denominator
  rcases roundHalfEven_cases numerator denominator with ⟨down, low⟩ | ⟨up, high⟩
  · rw [down]
    omega
  · have inside := Nat.mod_lt numerator pos
    rw [up, Nat.add_mul, Nat.one_mul]
    omega

theorem roundHalfEven_tie (pos : 0 < denominator)
    (tie : 2 * numerator = 2 * (roundHalfEven numerator denominator * denominator) + denominator) :
    roundHalfEven numerator denominator % 2 = 0 := by
  have split : numerator / denominator * denominator + numerator % denominator = numerator :=
    Nat.div_add_mod' numerator denominator
  have inside := Nat.mod_lt numerator pos
  unfold roundHalfEven at tie ⊢
  dsimp only at tie ⊢
  split
  next less => rw [if_pos less] at tie; omega
  next notLess =>
    rw [if_neg notLess] at tie
    split
    next greater => rw [if_pos greater, Nat.add_mul, Nat.one_mul] at tie; omega
    next notGreater =>
      rw [if_neg notGreater] at tie
      split
      next even => exact even
      next odd => omega

theorem roundHalfEven_le {bound : Nat} (pos : 0 < denominator)
    (below : numerator < bound * denominator) : roundHalfEven numerator denominator ≤ bound := by
  have near := (roundHalfEven_near numerator pos).1
  by_contra above
  have step := Nat.mul_le_mul_right denominator (not_le.mp above)
  rw [Nat.succ_mul] at step
  omega

theorem le_roundHalfEven {bound : Nat} (pos : 0 < denominator)
    (above : bound * denominator ≤ numerator) : bound ≤ roundHalfEven numerator denominator := by
  have near := (roundHalfEven_near numerator pos).2
  by_contra below
  have step := Nat.mul_le_mul_right denominator (not_le.mp below)
  rw [Nat.succ_mul] at step
  omega

theorem roundHalfEven_eq_iff_of_even {bound : Nat} (pos : 0 < denominator)
    (even : bound % 2 = 0) (below : numerator < bound * denominator) :
    roundHalfEven numerator denominator = bound ↔
      2 * (bound * denominator) ≤ 2 * numerator + denominator := by
  have near := roundHalfEven_near numerator pos
  constructor
  · intro rounded
    rw [← rounded]
    exact near.1
  · intro high
    refine le_antisymm (roundHalfEven_le pos below) (not_lt.mp fun short => ?_)
    have step := Nat.mul_le_mul_right denominator short
    rw [Nat.succ_mul] at step
    have tie : 2 * numerator =
        2 * (roundHalfEven numerator denominator * denominator) + denominator := by omega
    have next : (roundHalfEven numerator denominator + 1) * denominator = bound * denominator := by
      rw [Nat.succ_mul]
      omega
    have successor := Nat.eq_of_mul_eq_mul_right pos next
    have roundedEven := roundHalfEven_tie pos tie
    omega

end RoundHalfEven

/-! Quotients in units of powers of two -/

section Units

variable {numerator denominator : Nat}

theorem inUnits_snd_pos (numerator : Nat) (pos : 0 < denominator) (exponent : Int) :
    0 < (inUnits numerator denominator exponent).2 :=
  Nat.mul_pos pos (Nat.two_pow_pos _)

theorem scaled_quotient (base numerator denominator : Nat) (exponent : Int) :
    ((numerator * base ^ exponent.toNat : Nat) : ℚ) /
        (denominator * base ^ (-exponent).toNat : Nat) =
      numerator / denominator * (base : ℚ) ^ exponent := by
  obtain ⟨k, rfl | rfl⟩ := exponent.eq_nat_or_neg
  · have none : (-(k : Int)).toNat = 0 := by omega
    simp only [none, Int.toNat_natCast, zpow_natCast]
    push_cast
    rw [pow_zero, mul_one, div_mul_eq_mul_div]
  · have none : (-(k : Int)).toNat = 0 := by omega
    simp only [none, neg_neg, Int.toNat_natCast, zpow_neg, zpow_natCast]
    push_cast
    rw [pow_zero, mul_one, ← div_eq_mul_inv, div_div]

theorem inUnits_quotient (numerator denominator : Nat) (exponent : Int) :
    ((inUnits numerator denominator exponent).1 : ℚ) / (inUnits numerator denominator exponent).2 =
      numerator / denominator / 2 ^ exponent := by
  have scaled := scaled_quotient 2 numerator denominator (-exponent)
  rw [neg_neg, zpow_neg, ← div_eq_mul_inv] at scaled
  exact scaled

theorem inUnits_lt_iff (pos : 0 < denominator) (exponent : Int) (bound : Nat) :
    (inUnits numerator denominator exponent).1 <
        bound * (inUnits numerator denominator exponent).2 ↔
      (numerator : ℚ) / denominator < bound * 2 ^ exponent := by
  have unitPos : (0 : ℚ) < (inUnits numerator denominator exponent).2 := by
    exact_mod_cast inUnits_snd_pos numerator pos exponent
  rw [← div_lt_iff₀ (by positivity), ← inUnits_quotient, div_lt_iff₀ unitPos]
  exact_mod_cast Iff.rfl

/-- The binary logarithms of numerator and denominator confine a quotient to two binades. -/
theorem quotient_between_log2 (numeratorPos : 0 < numerator) (denominatorPos : 0 < denominator) :
    (2 : ℚ) ^ ((numerator.log2 : Int) - denominator.log2 - 1) ≤ numerator / denominator ∧
      (numerator : ℚ) / denominator < 2 ^ ((numerator.log2 : Int) - denominator.log2 + 1) := by
  have two : (2 : ℚ) ≠ 0 := by norm_num
  have numeratorLow : ((2 : ℚ) ^ numerator.log2) ≤ numerator := by
    exact_mod_cast Nat.log2_self_le numeratorPos.ne'
  have numeratorHigh : (numerator : ℚ) < 2 ^ (numerator.log2 + 1) := by
    exact_mod_cast Nat.lt_log2_self
  have denominatorLow : ((2 : ℚ) ^ denominator.log2) ≤ denominator := by
    exact_mod_cast Nat.log2_self_le denominatorPos.ne'
  have denominatorHigh : (denominator : ℚ) < 2 ^ (denominator.log2 + 1) := by
    exact_mod_cast Nat.lt_log2_self
  have pos : (0 : ℚ) < denominator := by exact_mod_cast denominatorPos
  constructor
  · rw [le_div_iff₀ pos]
    calc (2 : ℚ) ^ ((numerator.log2 : Int) - denominator.log2 - 1) * denominator
        ≤ 2 ^ ((numerator.log2 : Int) - denominator.log2 - 1) * 2 ^ (denominator.log2 + 1) := by
          gcongr
      _ = 2 ^ numerator.log2 := by
          rw [← zpow_natCast, ← zpow_add₀ two, ← zpow_natCast]
          congr 1
          push_cast
          ring
      _ ≤ numerator := numeratorLow
  · rw [div_lt_iff₀ pos]
    calc (numerator : ℚ) < 2 ^ (numerator.log2 + 1) := numeratorHigh
      _ = 2 ^ ((numerator.log2 : Int) - denominator.log2 + 1) * 2 ^ denominator.log2 := by
          rw [← zpow_natCast, ← zpow_natCast, ← zpow_add₀ two]
          congr 1
          push_cast
          ring
      _ ≤ 2 ^ ((numerator.log2 : Int) - denominator.log2 + 1) * denominator := by gcongr

variable {f : Format}

/-- The unit of a quotient: it is no smaller than the least unit, the quotient has at most as many
bits before the point as the significand, and exactly as many unless the unit is the least. -/
theorem unitExponent_spec (numeratorPos : 0 < numerator) (denominatorPos : 0 < denominator) :
    f.minExponent ≤ f.unitExponent numerator denominator ∧
      (numerator : ℚ) / denominator <
        2 ^ (f.precision + f.unitExponent numerator denominator) ∧
      (f.unitExponent numerator denominator = f.minExponent ∨
        2 ^ (f.precision - 1 + f.unitExponent numerator denominator) ≤
          (numerator : ℚ) / denominator) := by
  obtain ⟨least, most⟩ := quotient_between_log2 numeratorPos denominatorPos
  have one : (1 : ℚ) ≤ 2 := by norm_num
  unfold Format.unitExponent
  dsimp only
  generalize lowEq : (numerator.log2 : Int) - denominator.log2 - f.precision = low
  have fits : (inUnits numerator denominator low).1 / (inUnits numerator denominator low).2 <
      2 ^ f.precision ↔ (numerator : ℚ) / denominator < 2 ^ (f.precision + low) := by
    rw [Nat.div_lt_iff_lt_mul (inUnits_snd_pos numerator denominatorPos low),
      inUnits_lt_iff denominatorPos, zpow_add₀ (by norm_num), zpow_natCast, Nat.cast_pow,
      Nat.cast_ofNat]
  generalize exactEq : (if (inUnits numerator denominator low).1 /
    (inUnits numerator denominator low).2 < 2 ^ f.precision then low else low + 1) = exact
  have exactSpec : (numerator : ℚ) / denominator < 2 ^ (f.precision + exact) ∧
      2 ^ (f.precision - 1 + exact) ≤ (numerator : ℚ) / denominator := by
    rw [← exactEq]
    split
    next less =>
      refine ⟨fits.mp less, le_trans (zpow_le_zpow_right₀ one ?_) least⟩
      omega
    next notLess =>
      refine ⟨lt_of_lt_of_le most (zpow_le_zpow_right₀ one ?_), ?_⟩
      · omega
      · have atLeast := not_lt.mp (mt fits.mpr notLess)
        refine le_trans (zpow_le_zpow_right₀ one ?_) atLeast
        omega
  refine ⟨le_max_right _ _, lt_of_lt_of_le exactSpec.1 (zpow_le_zpow_right₀ one ?_), ?_⟩
  · have := le_max_left exact f.minExponent
    omega
  · rcases max_choice exact f.minExponent with greater | least
    · rw [greater]
      exact .inr exactSpec.2
    · exact .inl least

end Units

/-! What is rounded to a finite datum -/

section Range

variable {f : Format}

namespace Finite

def magnitude (x : Finite f) : ℚ :=
  x.significand * 2 ^ x.exponent

theorem ratio_quotient (x : Finite f) : (x.ratio.1 : ℚ) / x.ratio.2 = x.magnitude := by
  have scaled := scaled_quotient 2 x.significand 1 x.exponent
  simpa [ratio, magnitude] using scaled

theorem magnitude_nonneg (x : Finite f) : 0 ≤ x.magnitude := by
  unfold magnitude
  positivity

theorem toRat_eq (x : Finite f) :
    x.toRat = if x.negative then -x.magnitude else x.magnitude := by
  have quotient : mkRat x.ratio.1 x.ratio.2 = x.magnitude := by
    rw [Rat.mkRat_eq_div, ← ratio_quotient]
    push_cast
    rfl
  unfold toRat
  rw [quotient]

theorem abs_toRat (x : Finite f) : |x.toRat| = x.magnitude := by
  rw [toRat_eq]
  cases x.negative with
  | false => exact abs_of_nonneg x.magnitude_nonneg
  | true => exact (abs_neg x.magnitude).trans (abs_of_nonneg x.magnitude_nonneg)

end Finite

/-- The middle between the greatest finite datum and the power of two behind it. -/
def Format.overflowBound (f : Format) : ℚ :=
  (2 ^ f.precision - 1 / 2) * 2 ^ f.maxExponent

theorem Finite.magnitude_lt_overflowBound (x : Finite f) : x.magnitude < f.overflowBound := by
  obtain ⟨fits, -, most, -⟩ := x.canonical
  have one : (1 : ℚ) ≤ 2 := by norm_num
  have significand : (x.significand : ℚ) ≤ 2 ^ f.precision - 1 := by
    have : x.significand + 1 ≤ 2 ^ f.precision := fits
    have : (x.significand : ℚ) + 1 ≤ 2 ^ f.precision := by exact_mod_cast this
    linarith
  have unit : (2 : ℚ) ^ x.exponent ≤ 2 ^ f.maxExponent := zpow_le_zpow_right₀ one most
  have pos : (0 : ℚ) < 2 ^ f.maxExponent := by positivity
  unfold Finite.magnitude Format.overflowBound
  calc (x.significand : ℚ) * 2 ^ x.exponent ≤ x.significand * 2 ^ f.maxExponent := by gcongr
    _ ≤ (2 ^ f.precision - 1) * 2 ^ f.maxExponent := by gcongr
    _ < (2 ^ f.precision - 1 / 2) * 2 ^ f.maxExponent := by
      apply mul_lt_mul_of_pos_right _ pos
      linarith

section Assemble

variable {significand : Nat} {exponent : Int}

theorem Format.two_pow_precision (wide : 0 < f.precision) :
    2 ^ f.precision = 2 * 2 ^ (f.precision - 1) := by
  rw [← Nat.pow_succ', Nat.succ_eq_add_one, Nat.sub_add_cancel wide]

theorem assemble_finite (wide : 0 < f.precision) (fits : significand ≤ 2 ^ f.precision)
    (least : f.minExponent ≤ exponent)
    (normal : exponent = f.minExponent ∨ 2 ^ (f.precision - 1) ≤ significand)
    (most : exponent < f.maxExponent ∨
      exponent = f.maxExponent ∧ significand ≠ 2 ^ f.precision) (negative : Bool) :
    ∃ x, f.assemble negative significand exponent = .finite x ∧
      x.magnitude = significand * 2 ^ exponent := by
  have halves := f.two_pow_precision wide
  have pos := Nat.two_pow_pos (f.precision - 1)
  unfold Format.assemble
  by_cases full : significand = 2 ^ f.precision
  · have canonical : f.Canonical (2 ^ (f.precision - 1)) (exponent + 1) := by
      refine ⟨by omega, by omega, by omega, .inr (Nat.le_refl _)⟩
    simp only [if_pos full, dif_pos canonical]
    refine ⟨_, rfl, ?_⟩
    show ((2 ^ (f.precision - 1) : Nat) : ℚ) * 2 ^ (exponent + 1) = significand * 2 ^ exponent
    rw [full, halves, zpow_add_one₀ (by norm_num)]
    push_cast
    ring
  · have canonical : f.Canonical significand exponent := by
      refine ⟨by omega, by omega, by omega, normal⟩
    simp only [if_neg full, dif_pos canonical]
    exact ⟨_, rfl, rfl⟩

theorem assemble_infinite
    (most : f.maxExponent < exponent ∨
      exponent = f.maxExponent ∧ significand = 2 ^ f.precision) (negative : Bool) :
    f.assemble negative significand exponent = .infinite negative := by
  unfold Format.assemble
  by_cases full : significand = 2 ^ f.precision
  · have beyond : ¬f.Canonical (2 ^ (f.precision - 1)) (exponent + 1) := by
      rintro ⟨-, -, inside, -⟩
      omega
    simp only [if_pos full, dif_neg beyond]
  · have beyond : ¬f.Canonical significand exponent := by
      rintro ⟨-, -, inside, -⟩
      omega
    simp only [if_neg full, dif_neg beyond]

end Assemble

section Nearest

variable {numerator denominator : Nat}

def Format.rounded (f : Format) (numerator denominator : Nat) : Nat :=
  let scaled := inUnits numerator denominator (f.unitExponent numerator denominator)
  roundHalfEven scaled.1 scaled.2

theorem nearest_eq_assemble (numeratorPos : 0 < numerator) (negative : Bool) :
    f.nearest negative numerator denominator =
      f.assemble negative (f.rounded numerator denominator)
        (f.unitExponent numerator denominator) := by
  unfold Format.nearest Format.rounded
  rw [if_neg numeratorPos.ne']

section Rounded

variable (numeratorPos : 0 < numerator) (pos : 0 < denominator)

include numeratorPos pos

theorem lt_of_unitExponent :
    (inUnits numerator denominator (f.unitExponent numerator denominator)).1 <
      2 ^ f.precision *
        (inUnits numerator denominator (f.unitExponent numerator denominator)).2 := by
  have high := (unitExponent_spec (f := f) numeratorPos pos).2.1
  rw [zpow_add₀ (by norm_num), zpow_natCast] at high
  rw [inUnits_lt_iff pos]
  exact_mod_cast high

theorem rounded_fits : f.rounded numerator denominator ≤ 2 ^ f.precision :=
  roundHalfEven_le (inUnits_snd_pos numerator pos _) (lt_of_unitExponent numeratorPos pos)

theorem rounded_normal (wide : 0 < f.precision) :
    f.unitExponent numerator denominator = f.minExponent ∨
      2 ^ (f.precision - 1) ≤ f.rounded numerator denominator := by
  rcases (unitExponent_spec (f := f) numeratorPos pos).2.2 with least | normal
  · exact .inl least
  · have cast : (f.precision : Int) - 1 = (f.precision - 1 : Nat) := by omega
    rw [cast, zpow_add₀ (by norm_num), zpow_natCast] at normal
    refine .inr (le_roundHalfEven (inUnits_snd_pos numerator pos _) ?_)
    rw [← not_lt, inUnits_lt_iff pos, not_lt]
    exact_mod_cast normal

theorem rounded_eq_full_iff (wide : 0 < f.precision) :
    f.rounded numerator denominator = 2 ^ f.precision ↔
      (2 ^ f.precision - 1 / 2) * 2 ^ f.unitExponent numerator denominator ≤
        (numerator : ℚ) / denominator := by
  have fits := lt_of_unitExponent (f := f) numeratorPos pos
  unfold Format.rounded
  dsimp only
  generalize f.unitExponent numerator denominator = exponent at *
  have unitPos := inUnits_snd_pos numerator pos exponent
  have quotient := inUnits_quotient numerator denominator exponent
  have even : 2 ^ f.precision % 2 = 0 := by
    obtain ⟨precision, same⟩ := Nat.exists_eq_succ_of_ne_zero wide.ne'
    rw [same, Nat.pow_succ, Nat.mul_mod_left]
  rw [roundHalfEven_eq_iff_of_even unitPos even fits, ← le_div_iff₀ (by positivity), ← quotient]
  generalize (inUnits numerator denominator exponent).1 = top at *
  generalize (inUnits numerator denominator exponent).2 = bottom at *
  have bottomPos : (0 : ℚ) < bottom := by exact_mod_cast unitPos
  have cast : 2 * (2 ^ f.precision * bottom) ≤ 2 * top + bottom ↔
      2 * (2 ^ f.precision * (bottom : ℚ)) ≤ 2 * top + bottom := by
    exact_mod_cast Iff.rfl
  rw [cast, le_div_iff₀ bottomPos]
  constructor
  · intro high
    linarith
  · intro high
    linarith

end Rounded

theorem overflowBound_lt (f : Format) :
    f.overflowBound < 2 ^ (f.precision + f.maxExponent : Int) := by
  have pos : (0 : ℚ) < 2 ^ f.maxExponent := by positivity
  unfold Format.overflowBound
  rw [zpow_add₀ (by norm_num), zpow_natCast]
  apply mul_lt_mul_of_pos_right _ pos
  linarith

theorem le_overflowBound (f : Format) :
    2 ^ (f.precision + f.maxExponent - 1 : Int) ≤ f.overflowBound := by
  have pos : (0 : ℚ) < 2 ^ f.maxExponent := by positivity
  have one : (1 : ℚ) ≤ 2 ^ f.precision := one_le_pow₀ (by norm_num)
  unfold Format.overflowBound
  rw [zpow_sub_one₀ (by norm_num), zpow_add₀ (by norm_num), zpow_natCast, mul_right_comm]
  apply mul_le_mul_of_nonneg_right _ pos.le
  linarith

/-- The rounded significand and its unit stay in range just below the overflow bound. -/
theorem inRange_iff (wide : 0 < f.precision) (numeratorPos : 0 < numerator)
    (pos : 0 < denominator) :
    (f.unitExponent numerator denominator < f.maxExponent ∨
        f.unitExponent numerator denominator = f.maxExponent ∧
          f.rounded numerator denominator ≠ 2 ^ f.precision) ↔
      (numerator : ℚ) / denominator < f.overflowBound := by
  have one : (1 : ℚ) ≤ 2 := by norm_num
  obtain ⟨-, high, normal⟩ := unitExponent_spec (f := f) numeratorPos pos
  have full := rounded_eq_full_iff numeratorPos pos wide
  generalize f.unitExponent numerator denominator = exponent at *
  rcases lt_trichotomy exponent f.maxExponent with smaller | rfl | greater
  · refine iff_of_true (.inl smaller) ?_
    calc (numerator : ℚ) / denominator < 2 ^ (f.precision + exponent : Int) := high
      _ ≤ 2 ^ (f.precision + f.maxExponent - 1 : Int) := zpow_le_zpow_right₀ one (by omega)
      _ ≤ f.overflowBound := le_overflowBound f
  · simp only [lt_irrefl, true_and, false_or, ne_eq, full, not_le]
    rfl
  · have notLeast : exponent ≠ f.minExponent := by
      have := f.min_le_max
      omega
    refine iff_of_false (by omega) (not_lt.mpr ?_)
    calc f.overflowBound ≤ 2 ^ (f.precision + f.maxExponent : Int) := (overflowBound_lt f).le
      _ ≤ 2 ^ (f.precision - 1 + exponent : Int) := zpow_le_zpow_right₀ one (by omega)
      _ ≤ numerator / denominator := normal.resolve_left notLeast

theorem rounded_magnitude_le (numeratorPos : 0 < numerator) (pos : 0 < denominator) :
    (f.rounded numerator denominator : ℚ) * 2 ^ f.unitExponent numerator denominator ≤
        2 * (numerator / denominator) ∨
      (f.rounded numerator denominator : ℚ) * 2 ^ f.unitExponent numerator denominator ≤
        2 ^ (f.precision + f.minExponent : Int) := by
  have fits : (f.rounded numerator denominator : ℚ) ≤ 2 ^ f.precision := by
    exact_mod_cast rounded_fits (f := f) numeratorPos pos
  have magnitude : (f.rounded numerator denominator : ℚ) *
        2 ^ f.unitExponent numerator denominator ≤
      2 ^ (f.precision + f.unitExponent numerator denominator : Int) := by
    rw [zpow_add₀ (by norm_num), zpow_natCast]
    gcongr
  rcases (unitExponent_spec (f := f) numeratorPos pos).2.2 with least | normal
  · rw [least] at magnitude ⊢
    exact .inr magnitude
  · have doubled : (2 : ℚ) ^ (f.precision + f.unitExponent numerator denominator : Int) =
        2 * 2 ^ (f.precision - 1 + f.unitExponent numerator denominator : Int) := by
      rw [← zpow_one_add₀ (by norm_num)]
      congr 1
      ring
    exact .inl (by linarith)

theorem nearest_of_lt (wide : 0 < f.precision) (pos : 0 < denominator)
    (below : (numerator : ℚ) / denominator < f.overflowBound) (negative : Bool) :
    ∃ x, f.nearest negative numerator denominator = .finite x ∧
      (x.magnitude ≤ 2 * (numerator / denominator) ∨
        x.magnitude ≤ 2 ^ (f.precision + f.minExponent : Int)) := by
  rcases Nat.eq_zero_or_pos numerator with rfl | numeratorPos
  · refine ⟨.zero f negative, rfl, .inl ?_⟩
    simp [Finite.magnitude, Finite.zero]
  · have least := (unitExponent_spec (f := f) numeratorPos pos).1
    have inRange := (inRange_iff wide numeratorPos pos).mpr below
    obtain ⟨x, assembled, magnitude⟩ := assemble_finite wide (rounded_fits numeratorPos pos) least
      (rounded_normal numeratorPos pos wide) inRange negative
    refine ⟨x, (nearest_eq_assemble numeratorPos negative).trans assembled, ?_⟩
    rw [magnitude]
    exact rounded_magnitude_le numeratorPos pos

theorem nearest_of_le (wide : 0 < f.precision) (pos : 0 < denominator)
    (above : f.overflowBound ≤ (numerator : ℚ) / denominator) (negative : Bool) :
    f.nearest negative numerator denominator = .infinite negative := by
  have boundPos : 0 < f.overflowBound := lt_of_lt_of_le (by positivity) (le_overflowBound f)
  have numeratorPos : 0 < numerator := by
    apply Nat.pos_of_ne_zero
    rintro rfl
    simp only [Nat.cast_zero, zero_div] at above
    linarith
  have outOfRange := mt (inRange_iff wide numeratorPos pos).mp (not_lt.mpr above)
  rw [nearest_eq_assemble numeratorPos]
  apply assemble_infinite
  omega

end Nearest

/-! Data that are finite -/

def Datum.IsFinite (datum : Datum f) : Prop :=
  ∃ x, datum = .finite x

theorem Datum.not_isFinite_nan : ¬(Datum.nan : Datum f).IsFinite := by
  rintro ⟨x, finite⟩
  cases finite

theorem Datum.not_isFinite_infinite (negative : Bool) :
    ¬(Datum.infinite negative : Datum f).IsFinite := by
  rintro ⟨x, finite⟩
  cases finite

theorem isFinite_nearest_iff {numerator denominator : Nat} (wide : 0 < f.precision)
    (pos : 0 < denominator) (negative : Bool) :
    (f.nearest negative numerator denominator).IsFinite ↔
      (numerator : ℚ) / denominator < f.overflowBound := by
  constructor
  · intro finite
    by_contra above
    rw [nearest_of_le wide pos (not_lt.mp above)] at finite
    exact Datum.not_isFinite_infinite negative finite
  · intro below
    obtain ⟨x, rounded, -⟩ := nearest_of_lt wide pos below negative
    exact ⟨x, rounded⟩

theorem Finite.isFinite_convert_iff {g : Format} (wide : 0 < g.precision) (x : Finite f) :
    (x.convert g).IsFinite ↔ x.magnitude < g.overflowBound := by
  have pos : 0 < x.ratio.2 := Nat.two_pow_pos _
  unfold convert
  rw [isFinite_nearest_iff wide pos, ratio_quotient]

end Range

theorem overflowBound_binary32 : binary32.overflowBound = 2 ^ 128 - 2 ^ 103 := by
  norm_num [Format.overflowBound, binary32]

theorem overflowBound_binary64 : binary64.overflowBound = 2 ^ 1024 - 2 ^ 970 := by
  have half : binary64.overflowBound = (2 ^ 53 - 1 / 2) * (2 * 2 ^ 970) := by
    rw [← pow_succ']
    rfl
  rw [half, show (1024 : Nat) = 53 + (970 + 1) from rfl, pow_add, pow_add (2 : ℚ) 970 1]
  generalize (2 : ℚ) ^ 970 = unit
  ring

theorem two_pow_lt_overflowBound_binary64 : (2 : ℚ) ^ 128 < binary64.overflowBound := by
  refine lt_of_lt_of_le ?_ (le_overflowBound binary64)
  rw [← zpow_natCast]
  exact zpow_lt_zpow_right₀ (by norm_num) (by decide)

end DotPath.Binary
