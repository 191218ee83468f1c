import DotPath.Proofs.ShortestDecimal

/-!
Decimals that read back as a float.  What the span of a float owns is rounded to the float; so its
shortest decimal is, whatever digits were left out.
-/

set_option autoImplicit false
set_option relaxedAutoImplicit false

namespace DotPath.Binary

/-! The nearest natural number -/

section RoundHalfEven

variable {numerator denominator n : Nat}

private theorem eq_quotient_or_succ (low : 2 * (n * denominator) ≤ 2 * numerator + denominator)
    (high : 2 * numerator ≤ 2 * (n * denominator) + denominator) (pos : 0 < denominator) :
    n = numerator / denominator ∨ n = numerator / denominator + 1 := by
  have split : numerator / denominator * denominator + numerator % denominator = numerator :=
    Nat.div_add_mod' numerator denominator
  have inside := Nat.mod_lt numerator pos
  rcases lt_or_ge n (numerator / denominator) with less | notLess
  · have step := Nat.mul_le_mul_right denominator less
    rw [Nat.succ_mul] at step
    omega
  rcases lt_or_ge (numerator / denominator + 1) n with greater | notGreater
  · have step := Nat.mul_le_mul_right denominator greater
    rw [Nat.succ_mul, Nat.succ_mul] at step
    omega
  · omega

theorem roundHalfEven_eq (pos : 0 < denominator)
    (low : 2 * (n * denominator) ≤ 2 * numerator + denominator)
    (high : 2 * numerator ≤ 2 * (n * denominator) + denominator)
    (even : 2 * (n * denominator) = 2 * numerator + denominator ∨
      2 * numerator = 2 * (n * denominator) + denominator → n % 2 = 0) :
    roundHalfEven numerator denominator = n := by
  have split : numerator / denominator * denominator + numerator % denominator = numerator :=
    Nat.div_add_mod' numerator denominator
  unfold roundHalfEven
  dsimp only
  rcases eq_quotient_or_succ low high pos with rfl | rfl
  · split_ifs <;> omega
  · have next : (numerator / denominator + 1) * denominator =
        numerator / denominator * denominator + denominator := Nat.succ_mul _ _
    split_ifs <;> omega

theorem roundHalfEven_eq_of_near (pos : 0 < denominator)
    (near : |(numerator : ℚ) / denominator - n| ≤ 1 / 2)
    (even : |(numerator : ℚ) / denominator - n| = 1 / 2 → n % 2 = 0) :
    roundHalfEven numerator denominator = n := by
  have bottom : (0 : ℚ) < denominator := by exact_mod_cast pos
  have whole : (numerator : ℚ) / denominator * denominator = numerator :=
    div_mul_cancel₀ _ bottom.ne'
  generalize (numerator : ℚ) / denominator = q at *
  obtain ⟨low, high⟩ := abs_le.mp near
  have scaledLow := mul_le_mul_of_nonneg_right low bottom.le
  have scaledHigh := mul_le_mul_of_nonneg_right high bottom.le
  apply roundHalfEven_eq pos
  · have : 2 * ((n : ℚ) * denominator) ≤ 2 * numerator + denominator := by linarith
    exact_mod_cast this
  · have : 2 * (numerator : ℚ) ≤ 2 * (n * denominator) + denominator := by linarith
    exact_mod_cast this
  · rintro (tie | tie)
    · have middle : 2 * ((n : ℚ) * denominator) = 2 * numerator + denominator := by
        exact_mod_cast tie
      have : (q - n) * denominator = -(1 / 2) * denominator := by linarith
      apply even
      rw [mul_right_cancel₀ bottom.ne' this]
      norm_num
    · have middle : 2 * (numerator : ℚ) = 2 * (n * denominator) + denominator := by
        exact_mod_cast tie
      have : (q - n) * denominator = 1 / 2 * denominator := by linarith
      apply even
      rw [mul_right_cancel₀ bottom.ne' this]
      norm_num

end RoundHalfEven

/-! The numbers that are rounded to a float -/

namespace Finite

variable {f : Format} {x : Finite f} {q : ℚ}

/-- The numbers that lie nearest to a float: half a unit around it, or only a quarter below a power
of two, with the ends if its significand is even. -/
structure Owns (x : Finite f) (q : ℚ) : Prop where
  low : (if x.significand = 2 ^ (f.precision - 1) ∧ f.minExponent < x.exponent then
    x.magnitude - x.halfUnit / 2 else x.magnitude - x.halfUnit) ≤ q
  high : q ≤ x.magnitude + x.halfUnit
  even : |q - x.magnitude| = x.halfUnit → x.significand % 2 = 0

theorem owns_of_span (nonzero : x.significand ≠ 0) {exponent : Int} {point : Nat}
    (owns : x.span.owns exponent point = true) : x.Owns (point * 10 ^ exponent) := by
  have between := Span.between_of_owns x.span_denominator_pos owns
  rw [low_span nonzero, high_span] at between
  refine ⟨between.1, between.2, fun tie => ?_⟩
  by_contra odd
  have openEnds : x.span.closed = false := decide_eq_false odd
  have inside := (Span.owns_iff x.span_denominator_pos).mp owns
  have pos := x.halfUnit_pos
  rw [openEnds, if_neg Bool.false_ne_true, low_span nonzero, high_span] at inside
  have less : |(point : ℚ) * 10 ^ exponent - x.magnitude| < x.halfUnit := by
    rw [abs_lt]
    obtain ⟨above, below⟩ := inside
    split at above <;> constructor <;> linarith
  exact less.ne tie

theorem Owns.abs_sub_le (owns : x.Owns q) : |q - x.magnitude| ≤ x.halfUnit := by
  obtain ⟨low, high, -⟩ := owns
  have pos := x.halfUnit_pos
  rw [abs_le]
  split at low <;> constructor <;> linarith

section Nearest

variable {numerator denominator : Nat}

theorem significand_succ_le (x : Finite f) : (x.significand : ℚ) + 1 ≤ 2 ^ f.precision := by
  have : x.significand + 1 ≤ 2 ^ f.precision := x.canonical.1
  exact_mod_cast this

/-- The unit of a number that lies nearest to a float is that of the float, or half of it just below
a power of two. -/
theorem unitExponent_of_owns (wide : 0 < f.precision) (numeratorPos : 0 < numerator)
    (pos : 0 < denominator) (owns : x.Owns ((numerator : ℚ) / denominator)) :
    f.unitExponent numerator denominator = x.exponent ∨
      f.unitExponent numerator denominator = x.exponent - 1 ∧
        x.significand = 2 ^ (f.precision - 1) ∧ f.minExponent < x.exponent := by
  obtain ⟨least, below, normal⟩ := unitExponent_spec (f := f) numeratorPos pos
  obtain ⟨low, high, -⟩ := owns
  generalize f.unitExponent numerator denominator = unit at *
  generalize (numerator : ℚ) / denominator = q at *
  have fits := x.significand_succ_le
  have half := x.halfUnit_pos
  have magnitude := x.magnitude_eq
  have one : (1 : ℚ) < 2 := by norm_num
  have unit_eq (k : Int) : (2 : ℚ) ^ (k + x.exponent - 1) = 2 ^ k * x.halfUnit := by
    unfold halfUnit
    rw [← zpow_add₀ (by norm_num), add_sub_assoc]
  have full : (2 : ℚ) ^ (f.precision : Int) = 2 ^ f.precision := zpow_natCast 2 _
  have halves : (2 : ℚ) ^ (f.precision : Int) = 2 * 2 ^ (f.precision - 1 : Int) := by
    rw [← zpow_one_add₀ (by norm_num)]
    congr 1
    ring
  -- it is below the next power of two, so its unit is not greater
  have le : unit ≤ x.exponent := by
    rcases normal with atLeast | above
    · exact atLeast.trans_le x.canonical.2.1
    · have power : (2 : ℚ) ^ (f.precision - 1 + unit) <
          2 ^ (f.precision + 1 + x.exponent - 1 : Int) := by
        rw [unit_eq, zpow_add_one₀ (by norm_num), full]
        have scaled := mul_le_mul_of_nonneg_right fits half.le
        linarith
      have := (zpow_lt_zpow_iff_right₀ one).mp power
      omega
  rcases x.canonical.2.1.eq_or_lt with atLeast | greater
  · exact .inl (by omega)
  have normalized := x.canonical.2.2.2.resolve_left greater.ne'
  have base : ((2 ^ (f.precision - 1) : Nat) : ℚ) = 2 ^ (f.precision - 1 : Int) := by
    have cast : (f.precision : Int) - 1 = (f.precision - 1 : Nat) := by omega
    rw [cast, zpow_natCast]
    push_cast
    rfl
  have base_pos : (1 : ℚ) ≤ 2 ^ (f.precision - 1 : Int) := by
    rw [← base]
    exact_mod_cast Nat.one_le_two_pow
  -- and it is not below the power of two before, unless the float is that power itself
  by_cases power : x.significand = 2 ^ (f.precision - 1)
  · rw [if_pos ⟨power, greater⟩, magnitude, power, base] at low
    have less : (2 : ℚ) ^ (f.precision - 1 + x.exponent - 1) < 2 ^ (f.precision + unit) := by
      rw [unit_eq]
      have scaled := mul_le_mul_of_nonneg_right base_pos half.le
      linarith
    have := (zpow_lt_zpow_iff_right₀ one).mp less
    omega
  · have more : (2 : ℚ) ^ (f.precision - 1 : Int) + 1 ≤ x.significand := by
      rw [← base]
      exact_mod_cast Nat.lt_of_le_of_ne normalized (Ne.symm power)
    rw [if_neg fun both => power both.1, magnitude] at low
    have less : (2 : ℚ) ^ (f.precision + x.exponent - 1) < 2 ^ (f.precision + unit) := by
      rw [unit_eq, halves]
      have scaled := mul_le_mul_of_nonneg_right more half.le
      linarith
    have := (zpow_lt_zpow_iff_right₀ one).mp less
    omega

theorem assemble_self (x : Finite f) :
    f.assemble x.negative x.significand x.exponent = .finite x := by
  unfold Format.assemble
  simp only [if_neg x.canonical.1.ne, dif_pos x.canonical]

theorem assemble_full (power : x.significand = 2 ^ (f.precision - 1)) :
    f.assemble x.negative (2 ^ f.precision) (x.exponent - 1) = .finite x := by
  have canonical := x.canonical
  unfold Format.assemble
  simp only [if_true, sub_add_cancel, ← power, dif_pos canonical]

/-- What lies nearest to a float is rounded to it. -/
theorem nearest_of_owns (wide : 0 < f.precision) (numeratorPos : 0 < numerator)
    (pos : 0 < denominator) (owns : x.Owns ((numerator : ℚ) / denominator)) :
    f.nearest x.negative numerator denominator = .finite x := by
  rw [nearest_eq_assemble numeratorPos]
  rcases unitExponent_of_owns wide numeratorPos pos owns with same | ⟨less, power, greater⟩
  · have rounded : f.rounded numerator denominator = x.significand := by
      have unit : (2 : ℚ) ^ x.exponent = 2 * x.halfUnit := by
        unfold halfUnit
        rw [zpow_sub_one₀ (by norm_num)]
        ring
      have half := x.halfUnit_pos
      have distance : (numerator : ℚ) / denominator / 2 ^ x.exponent - x.significand =
          ((numerator : ℚ) / denominator - x.magnitude) / (2 * x.halfUnit) := by
        rw [unit, x.magnitude_eq]
        field_simp
      have near := owns.abs_sub_le
      unfold Format.rounded
      rw [same]
      apply roundHalfEven_eq_of_near (inUnits_snd_pos numerator pos _)
      · rw [inUnits_quotient, distance, abs_div, abs_of_pos (by positivity : 0 < 2 * x.halfUnit),
          div_le_iff₀ (by positivity)]
        linarith
      · rw [inUnits_quotient, distance, abs_div, abs_of_pos (by positivity : 0 < 2 * x.halfUnit),
          div_eq_iff (by positivity)]
        intro tie
        exact owns.even (by linarith)
    rw [same, rounded, assemble_self]
  · -- just below a power of two the significand is rounded up to the full power
    have rounded : f.rounded numerator denominator = 2 ^ f.precision := by
      rw [rounded_eq_full_iff numeratorPos pos wide, less]
      have low := owns.low
      have doubled : 2 * ((2 ^ (f.precision - 1) : Nat) : ℚ) = 2 ^ f.precision := by
        push_cast
        rw [← pow_succ', Nat.sub_add_cancel wide]
      rw [if_pos ⟨power, greater⟩, x.magnitude_eq, power, doubled] at low
      show (2 ^ f.precision - 1 / 2) * x.halfUnit ≤ _
      linarith
    rw [less, rounded, assemble_full power]

end Nearest

/-! The shortest decimal -/

theorem owns_shortest {x : Finite binary64} (nonzero : x.significand ≠ 0) :
    x.Owns x.shortest.toRat := by
  obtain ⟨count, point, shortest⟩ := exists_shortest nonzero
  rw [shortest.toRat_eq]
  exact owns_of_span nonzero (Span.of_gridPoint? shortest.found).1

theorem eq_zero_of_significand (x : Finite f) (zero : x.significand = 0) :
    x = .zero f x.negative := by
  obtain ⟨negative, significand, exponent, canonical⟩ := x
  obtain rfl : significand = 0 := zero
  have pos := Nat.two_pow_pos (f.precision - 1)
  obtain rfl : exponent = f.minExponent := canonical.2.2.2.resolve_right (by omega)
  rfl

theorem nearest_shortest (x : Finite binary64) {numerator denominator : Nat}
    (pos : 0 < denominator) (quotient : (numerator : ℚ) / denominator = x.shortest.toRat) :
    binary64.nearest x.negative numerator denominator = .finite x := by
  by_cases zero : x.significand = 0
  · have numerator_eq : numerator = 0 := by
      have bottom : (denominator : ℚ) ≠ 0 := by exact_mod_cast pos.ne'
      have magnitude : x.magnitude = 0 := by simp [magnitude, zero]
      rw [shortest_of_zero zero, magnitude, div_eq_zero_iff] at quotient
      exact_mod_cast quotient.resolve_right bottom
    rw [x.eq_zero_of_significand zero, numerator_eq]
    rfl
  · have owns := owns_shortest zero
    have numeratorPos : 0 < numerator := by
      apply Nat.pos_of_ne_zero
      rintro rfl
      have near := owns.abs_sub_le
      have one : (1 : ℚ) ≤ x.significand := by exact_mod_cast Nat.pos_of_ne_zero zero
      have half := x.halfUnit_pos
      have scaled := mul_le_mul_of_nonneg_right one half.le
      rw [← quotient, Nat.cast_zero, zero_div, zero_sub, abs_neg, abs_of_nonneg x.magnitude_nonneg,
        x.magnitude_eq] at near
      linarith
    rw [← quotient] at owns
    exact nearest_of_owns (by decide) numeratorPos pos owns

end Finite

end DotPath.Binary
