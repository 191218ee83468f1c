import DotPath.Binary.Shortest
import DotPath.Proofs.FloatReading
import Mathlib.Data.Nat.Cast.Order.Field

/-!
The shortest decimal of a float.  It lies in the span of the numbers that round to the float, no
grid before its own has a point in that span, and its search always ends by the seventeenth digit.
-/

set_option autoImplicit false
set_option relaxedAutoImplicit false

namespace DotPath.Binary

def Scientific.toRat (d : Scientific) : ℚ :=
  d.significand * 10 ^ d.exponent

theorem Scientific.toRat_strip (fuel : Nat) (d : Scientific) : (d.strip fuel).toRat = d.toRat := by
  induction fuel generalizing d with
  | zero => rfl
  | succ fuel ih =>
    unfold strip
    split
    next divisible =>
      obtain ⟨tens, multiple⟩ := Nat.dvd_of_mod_eq_zero divisible.2
      rw [ih]
      unfold toRat
      rw [multiple, Nat.mul_div_cancel_left tens (by decide), zpow_add_one₀ (by norm_num)]
      push_cast
      ring
    next => rfl

/-! Spans -/

namespace Span

variable {s : Span} {exponent : Int} {point : Nat}

def center (s : Span) : ℚ :=
  s.middle / s.denominator

theorem against_spec (pos : 0 < s.denominator) (exponent : Int) (point numerator : Nat) :
    ∃ scale : ℚ, 0 < scale ∧
      ((s.against exponent point numerator).1 : ℚ) = point * 10 ^ exponent * scale ∧
      ((s.against exponent point numerator).2 : ℚ) = numerator / s.denominator * scale := by
  have unit := scaled_quotient 10 1 1 exponent
  have denominatorPos : (0 : ℚ) < s.denominator := by exact_mod_cast pos
  refine ⟨s.denominator * 10 ^ (-exponent).toNat, by positivity, ?_, ?_⟩
  · rw [div_eq_iff (by positivity)] at unit
    push_cast at unit
    unfold against
    push_cast
    rw [one_mul, one_mul, one_div_one, one_mul] at unit
    rw [unit]
    ring
  · unfold against
    push_cast
    field_simp

theorem against_le_iff (pos : 0 < s.denominator) (exponent : Int) (point numerator : Nat) :
    ((s.against exponent point numerator).2 ≤ (s.against exponent point numerator).1 ↔
        (numerator : ℚ) / s.denominator ≤ point * 10 ^ exponent) ∧
      ((s.against exponent point numerator).1 ≤ (s.against exponent point numerator).2 ↔
        (point : ℚ) * 10 ^ exponent ≤ numerator / s.denominator) := by
  obtain ⟨scale, scalePos, pointSide, endSide⟩ := against_spec pos exponent point numerator
  constructor
  · rw [← mul_le_mul_iff_of_pos_right scalePos, ← pointSide, ← endSide, Nat.cast_le]
  · rw [← mul_le_mul_iff_of_pos_right scalePos, ← pointSide, ← endSide, Nat.cast_le]

/-- A span owns the grid points between its ends, and the ends themselves if it is closed. -/
theorem owns_iff (pos : 0 < s.denominator) :
    s.owns exponent point = true ↔
      if s.closed then
        (s.low : ℚ) / s.denominator ≤ point * 10 ^ exponent ∧
          (point : ℚ) * 10 ^ exponent ≤ s.high / s.denominator
      else
        (s.low : ℚ) / s.denominator < point * 10 ^ exponent ∧
          (point : ℚ) * 10 ^ exponent < s.high / s.denominator := by
  obtain ⟨aboveLow, belowLow⟩ := against_le_iff pos exponent point s.low
  obtain ⟨aboveHigh, belowHigh⟩ := against_le_iff pos exponent point s.high
  unfold owns
  split
  · simp only [Bool.and_eq_true, decide_eq_true_eq, aboveLow, belowHigh]
  · simp only [Bool.and_eq_true, decide_eq_true_eq, ← not_le, belowLow, aboveHigh]

theorem between_of_owns (pos : 0 < s.denominator) (owns : s.owns exponent point = true) :
    (s.low : ℚ) / s.denominator ≤ point * 10 ^ exponent ∧
      (point : ℚ) * 10 ^ exponent ≤ s.high / s.denominator := by
  have between := (owns_iff pos).mp owns
  split at between
  · exact between
  · exact ⟨between.1.le, between.2.le⟩

theorem owns_of_between (pos : 0 < s.denominator)
    (above : (s.low : ℚ) / s.denominator < point * 10 ^ exponent)
    (below : (point : ℚ) * 10 ^ exponent < s.high / s.denominator) :
    s.owns exponent point = true := by
  rw [owns_iff pos]
  split
  · exact ⟨above.le, below.le⟩
  · exact ⟨above, below⟩

/-! Grids -/

def onGrid (s : Span) (exponent : Int) : Nat × Nat :=
  (s.middle * 10 ^ (-exponent).toNat, 10 ^ exponent.toNat * s.denominator)

theorem onGrid_snd_pos (pos : 0 < s.denominator) (exponent : Int) : 0 < (s.onGrid exponent).2 :=
  Nat.mul_pos (Nat.pow_pos (by decide)) pos

theorem onGrid_quotient (s : Span) (exponent : Int) :
    ((s.onGrid exponent).1 : ℚ) / (s.onGrid exponent).2 = s.center / 10 ^ exponent := by
  have scaled := scaled_quotient 10 s.middle s.denominator (-exponent)
  rw [neg_neg, zpow_neg, Nat.mul_comm s.denominator] at scaled
  exact scaled

def nearestPoint (s : Span) (exponent : Int) : Nat :=
  roundHalfEven (s.onGrid exponent).1 (s.onGrid exponent).2

theorem abs_nearestPoint_sub_le (pos : 0 < s.denominator) (exponent : Int) :
    |s.nearestPoint exponent * 10 ^ exponent - s.center| ≤ 10 ^ exponent / 2 := by
  obtain ⟨high, low⟩ := roundHalfEven_near (s.onGrid exponent).1 (onGrid_snd_pos pos exponent)
  have quotient := s.onGrid_quotient exponent
  have unitPos : (0 : ℚ) < (s.onGrid exponent).2 := by exact_mod_cast onGrid_snd_pos pos exponent
  have gridPos : (0 : ℚ) < 10 ^ exponent := by positivity
  rw [div_eq_div_iff unitPos.ne' gridPos.ne'] at quotient
  have high' : 2 * ((s.nearestPoint exponent : ℚ) * (s.onGrid exponent).2) ≤
      2 * (s.onGrid exponent).1 + (s.onGrid exponent).2 := by exact_mod_cast high
  have low' : 2 * ((s.onGrid exponent).1 : ℚ) ≤
      2 * (s.nearestPoint exponent * (s.onGrid exponent).2) + (s.onGrid exponent).2 := by
    exact_mod_cast low
  generalize (s.nearestPoint exponent : ℚ) = point at *
  generalize ((s.onGrid exponent).1 : ℚ) = scaled at *
  generalize ((s.onGrid exponent).2 : ℚ) = unit at *
  generalize (10 : ℚ) ^ exponent = grid at *
  rw [abs_le]
  constructor
  · rw [← mul_le_mul_iff_of_pos_right unitPos]
    nlinarith
  · rw [← mul_le_mul_iff_of_pos_right unitPos]
    nlinarith

theorem nearestPoint_of_center (pos : 0 < s.denominator)
    (center : s.center = point * 10 ^ exponent) : s.nearestPoint exponent = point := by
  have unitPos : (0 : ℚ) < (s.onGrid exponent).2 := by exact_mod_cast onGrid_snd_pos pos exponent
  have quotient := s.onGrid_quotient exponent
  rw [center, mul_div_assoc, div_self (by positivity), mul_one, div_eq_iff unitPos.ne'] at quotient
  have multiple : (s.onGrid exponent).1 = point * (s.onGrid exponent).2 := by
    exact_mod_cast quotient
  unfold nearestPoint roundHalfEven
  rw [multiple, Nat.mul_div_cancel _ (onGrid_snd_pos pos exponent), Nat.mul_mod_left]
  simp [onGrid_snd_pos pos exponent]

def otherPoint (s : Span) (exponent : Int) : Nat :=
  let below := (s.onGrid exponent).1 / (s.onGrid exponent).2
  if s.nearestPoint exponent = below then below + 1 else below

theorem gridPoint?_eq (s : Span) (exponent : Int) :
    s.gridPoint? exponent =
      if s.owns exponent (s.nearestPoint exponent) then some (s.nearestPoint exponent)
      else if s.owns exponent (s.otherPoint exponent) then some (s.otherPoint exponent)
      else none :=
  rfl

theorem gridPoint?_of_owns (owns : s.owns exponent (s.nearestPoint exponent) = true) :
    s.gridPoint? exponent = some (s.nearestPoint exponent) := by
  rw [gridPoint?_eq, if_pos owns]

theorem of_gridPoint? (found : s.gridPoint? exponent = some point) :
    s.owns exponent point = true ∧ (point : ℚ) ≤ s.center / 10 ^ exponent + 1 := by
  have floor : (((s.onGrid exponent).1 / (s.onGrid exponent).2 : Nat) : ℚ) ≤
      s.center / 10 ^ exponent := by
    rw [← s.onGrid_quotient]
    exact Nat.cast_div_le
  have below {n : Nat} (le : n ≤ (s.onGrid exponent).1 / (s.onGrid exponent).2 + 1) :
      (n : ℚ) ≤ s.center / 10 ^ exponent + 1 := by
    have cast : (n : ℚ) ≤ ((s.onGrid exponent).1 / (s.onGrid exponent).2 : Nat) + 1 := by
      exact_mod_cast le
    linarith
  rw [gridPoint?_eq] at found
  split at found
  next owns =>
    cases found
    refine ⟨owns, below ?_⟩
    rcases roundHalfEven_cases (s.onGrid exponent).1 (s.onGrid exponent).2 with ⟨down, -⟩ | ⟨up, -⟩
    · exact down.le.trans (Nat.le_succ _)
    · exact up.le
  next =>
    split at found
    next owns =>
      cases found
      refine ⟨owns, below ?_⟩
      unfold otherPoint
      dsimp only
      split
      · exact Nat.le_refl _
      · exact Nat.le_succ _
    next => cases found

theorem succ_le_ten_pow {n : Nat} (pos : 0 < n) :
    (n : ℚ) + 1 ≤ 10 ^ ((Text.digits n).length : Int) := by
  have most := (digits_between pos).2
  rw [zpow_natCast] at most ⊢
  have next : n + 1 ≤ 10 ^ (Text.digits n).length := by exact_mod_cast most
  exact_mod_cast next

/-- The leading exponent tells between which powers of ten the center lies. -/
theorem center_between (pos : 0 < s.denominator) (middlePos : 0 < s.middle) :
    (10 : ℚ) ^ s.leadingExponent ≤ s.center ∧ s.center < 10 ^ (s.leadingExponent + 1) := by
  have denominatorPos : (0 : ℚ) < s.denominator := by exact_mod_cast pos
  have numeratorPos : (0 : ℚ) < s.middle := by exact_mod_cast middlePos
  unfold leadingExponent center
  split
  next whole =>
    have quotientPos : 0 < s.middle / s.denominator := Nat.div_pos whole pos
    have least := (digits_between quotientPos).1
    have most := succ_le_ten_pow quotientPos
    have floor : ((s.middle / s.denominator : Nat) : ℚ) ≤ s.middle / s.denominator :=
      Nat.cast_div_le
    have next : (s.middle : ℚ) / s.denominator < (s.middle / s.denominator : Nat) + 1 := by
      rw [div_lt_iff₀' denominatorPos]
      exact_mod_cast Nat.lt_mul_div_succ s.middle pos
    rw [sub_add_cancel]
    exact ⟨least.trans floor, next.trans_le most⟩
  next small =>
    have quotientPos : 0 < (s.denominator - 1) / s.middle := Nat.div_pos (by omega) middlePos
    have least := (digits_between quotientPos).1
    have most := succ_le_ten_pow quotientPos
    generalize (Text.digits ((s.denominator - 1) / s.middle)).length = count at *
    have floor : s.middle * ((s.denominator - 1) / s.middle) < s.denominator := by
      have := Nat.mul_div_le (s.denominator - 1) s.middle
      omega
    have next : s.denominator ≤ s.middle * ((s.denominator - 1) / s.middle + 1) := by
      have := Nat.lt_mul_div_succ (s.denominator - 1) middlePos
      omega
    constructor
    · rw [zpow_neg, inv_le_comm₀ (by positivity) (by positivity), inv_div,
        div_le_iff₀' numeratorPos]
      calc (s.denominator : ℚ) ≤ s.middle * (((s.denominator - 1) / s.middle : Nat) + 1) := by
            exact_mod_cast next
        _ ≤ s.middle * 10 ^ (count : Int) := by gcongr
    · have power : -(count : Int) + 1 = -(count - 1) := by ring
      rw [power, zpow_neg, lt_inv_comm₀ (by positivity) (by positivity), inv_div,
        lt_div_iff₀' numeratorPos]
      calc (s.middle : ℚ) * 10 ^ (count - 1 : Int) ≤
            s.middle * ((s.denominator - 1) / s.middle : Nat) := by gcongr
        _ < s.denominator := by exact_mod_cast floor

end Span

/-! The span of a float -/

namespace Finite

variable {f : Format}

def halfUnit (x : Finite f) : ℚ :=
  2 ^ (x.exponent - 1)

theorem span_denominator_pos (x : Finite f) : 0 < x.span.denominator :=
  Nat.two_pow_pos _

theorem magnitude_eq (x : Finite f) : x.magnitude = 2 * x.significand * x.halfUnit := by
  have unit : (2 : ℚ) ^ x.exponent = 2 * x.halfUnit := by
    unfold halfUnit
    rw [zpow_sub_one₀ (by norm_num)]
    ring
  unfold magnitude
  rw [unit]
  ring

theorem span_quotient (x : Finite f) (quarters : Nat) :
    ((quarters * 2 ^ (x.exponent - 2).toNat : Nat) : ℚ) / x.span.denominator =
      quarters / 2 * x.halfUnit := by
  have scaled := scaled_quotient 2 quarters 1 (x.exponent - 2)
  have quarter : (2 : ℚ) ^ (x.exponent - 2) = x.halfUnit / 2 := by
    unfold halfUnit
    rw [div_eq_mul_inv, ← zpow_sub_one₀ (by norm_num)]
    congr 1
    ring
  rw [neg_sub, Nat.one_mul, Nat.cast_one, div_one, Nat.cast_ofNat, quarter] at scaled
  rw [div_mul_eq_mul_div, mul_div_assoc]
  exact scaled

theorem center_span (x : Finite f) : x.span.center = x.magnitude := by
  have quotient := x.span_quotient (4 * x.significand)
  rw [x.magnitude_eq]
  push_cast at quotient
  unfold Span.center
  calc (x.span.middle : ℚ) / x.span.denominator = 4 * x.significand / 2 * x.halfUnit := by
        exact_mod_cast quotient
    _ = 2 * x.significand * x.halfUnit := by ring

theorem high_span (x : Finite f) :
    (x.span.high : ℚ) / x.span.denominator = x.magnitude + x.halfUnit := by
  rw [x.magnitude_eq]
  calc (x.span.high : ℚ) / x.span.denominator =
        ((4 * x.significand + 2 : Nat) : ℚ) / 2 * x.halfUnit := x.span_quotient _
    _ = 2 * x.significand * x.halfUnit + x.halfUnit := by
      push_cast
      ring

/-- The span of a float reaches half a unit down, or a quarter below a power of two. -/
theorem low_span {x : Finite f} (nonzero : x.significand ≠ 0) :
    (x.span.low : ℚ) / x.span.denominator =
      if x.significand = 2 ^ (f.precision - 1) ∧ f.minExponent < x.exponent then
        x.magnitude - x.halfUnit / 2
      else x.magnitude - x.halfUnit := by
  have pos := Nat.pos_of_ne_zero nonzero
  have low (below : Nat) (le : below ≤ 2) :
      ((4 * x.significand - below : Nat) : ℚ) / 2 * x.halfUnit =
        x.magnitude - below / 2 * x.halfUnit := by
    rw [x.magnitude_eq, Nat.cast_sub (by omega)]
    push_cast
    ring
  have quotient := x.span_quotient (4 * x.significand -
    if x.significand = 2 ^ (f.precision - 1) ∧ f.minExponent < x.exponent then 1 else 2)
  have same : x.span.low = (4 * x.significand -
      if x.significand = 2 ^ (f.precision - 1) ∧ f.minExponent < x.exponent then 1 else 2) *
        2 ^ (x.exponent - 2).toNat := rfl
  rw [same, quotient]
  split
  · rw [low 1 (by decide)]
    push_cast
    ring
  · rw [low 2 (by decide)]
    push_cast
    ring

theorem halfUnit_pos (x : Finite f) : 0 < x.halfUnit := by
  unfold halfUnit
  positivity

theorem abs_sub_le_of_owns {x : Finite f} (nonzero : x.significand ≠ 0) {exponent : Int}
    {point : Nat} (owns : x.span.owns exponent point = true) :
    |point * 10 ^ exponent - x.magnitude| ≤ x.halfUnit := by
  obtain ⟨above, below⟩ := Span.between_of_owns x.span_denominator_pos owns
  have pos := x.halfUnit_pos
  rw [high_span] at below
  rw [low_span nonzero] at above
  rw [abs_le]
  split at above
  · constructor <;> linarith
  · constructor <;> linarith

/-- What is less than a quarter of a unit away from a float, or less than half a unit if the float
is no power of two, is owned by its span. -/
theorem owns_of_abs_sub_lt {x : Finite f} (nonzero : x.significand ≠ 0) {exponent : Int}
    {point : Nat} {reach : ℚ} (near : |point * 10 ^ exponent - x.magnitude| ≤ reach)
    (half : reach < x.halfUnit)
    (quarter : x.significand = 2 ^ (f.precision - 1) → reach < x.halfUnit / 2) :
    x.span.owns exponent point = true := by
  rw [abs_le] at near
  apply Span.owns_of_between x.span_denominator_pos
  · rw [low_span nonzero]
    split
    next power =>
      have := quarter power.1
      linarith
    next => linarith
  · rw [high_span]
    linarith

end Finite

/-! The search -/

namespace Finite

/-- The exponent of the grid with one digit more than a count. -/
def gridExponent {f : Format} (x : Finite f) (count : Nat) : Int :=
  x.span.leadingExponent - count

/-- The grid on which the shortest decimal of a float lies, and its point on that grid. -/
structure Shortest {f : Format} (x : Finite f) (count point : Nat) : Prop where
  count_lt : count < mostDigits
  found : x.span.gridPoint? (x.gridExponent count) = some point
  first : ∀ fewer < count, x.span.gridPoint? (x.gridExponent fewer) = none
  toRat_eq : x.shortest.toRat = point * 10 ^ x.gridExponent count

variable {x : Finite binary64}

theorem middle_span_pos {f : Format} {x : Finite f} (nonzero : x.significand ≠ 0) :
    0 < x.span.middle :=
  Nat.mul_pos (Nat.mul_pos (by decide) (Nat.pos_of_ne_zero nonzero)) (Nat.two_pow_pos _)

theorem magnitude_between {f : Format} {x : Finite f} (nonzero : x.significand ≠ 0) :
    (10 : ℚ) ^ x.span.leadingExponent ≤ x.magnitude ∧
      x.magnitude < 10 ^ (x.span.leadingExponent + 1) := by
  rw [← center_span]
  exact Span.center_between x.span_denominator_pos (middle_span_pos nonzero)

/-- Seventeen digits are enough: their grid is finer than the span of any float. -/
theorem exists_gridPoint (nonzero : x.significand ≠ 0) :
    ∃ point, x.span.gridPoint? (x.gridExponent 16) = some point := by
  have least := (magnitude_between nonzero).1
  have near := x.span.abs_nearestPoint_sub_le x.span_denominator_pos (x.gridExponent 16)
  have pos := x.halfUnit_pos
  have grid : (10 : ℚ) ^ x.gridExponent 16 ≤ x.magnitude / 10 ^ 16 := by
    rw [le_div_iff₀ (by positivity)]
    calc (10 : ℚ) ^ x.gridExponent 16 * 10 ^ 16 = 10 ^ x.span.leadingExponent := by
          unfold gridExponent
          rw [zpow_sub₀ (by norm_num)]
          norm_num
      _ ≤ x.magnitude := least
  rw [center_span] at near
  rw [x.magnitude_eq] at grid
  refine ⟨_, Span.gridPoint?_of_owns (owns_of_abs_sub_lt nonzero near ?_ ?_)⟩
  · have fits : (x.significand : ℚ) < 2 ^ 53 := by exact_mod_cast x.canonical.1
    have scaled := mul_lt_mul_of_pos_right fits pos
    linarith
  · intro power
    have least : (x.significand : ℚ) = 2 ^ 52 := by exact_mod_cast power
    rw [least] at grid
    linarith

def candidate {f : Format} (x : Finite f) (count : Nat) : Option Scientific :=
  (x.span.gridPoint? (x.gridExponent count)).map fun point => ⟨point, x.gridExponent count⟩

theorem shortest_of_found {d : Scientific} (nonzero : x.significand ≠ 0)
    (found : (List.range mostDigits).findSome? x.candidate = some d) :
    x.shortest = d.strip mostDigits := by
  unfold shortest
  rw [if_neg nonzero]
  dsimp only
  split
  next other search =>
    obtain rfl := Option.some.inj (search.symm.trans found)
    rfl
  next search => cases search.symm.trans found

theorem exists_shortest (nonzero : x.significand ≠ 0) : ∃ count point, x.Shortest count point := by
  cases found : (List.range mostDigits).findSome? x.candidate with
  | none =>
    obtain ⟨point, last⟩ := exists_gridPoint nonzero
    have absent := List.findSome?_eq_none_iff.mp found 16 (by decide)
    rw [candidate, last] at absent
    cases absent
  | some d =>
    obtain ⟨before, count, behind, split, at_count, fewer⟩ := List.findSome?_eq_some_iff.mp found
    obtain ⟨point, grid, rfl⟩ := Option.map_eq_some_iff.mp at_count
    -- the counts are searched in order, so all smaller ones have been searched in vain
    have ordered := List.pairwise_lt_range (n := mostDigits)
    rw [split] at ordered
    have member : count ∈ List.range mostDigits := by simp [split]
    refine ⟨count, point, List.mem_range.mp member, grid, fun other less => ?_, ?_⟩
    · have otherMember : other ∈ before ++ count :: behind := by
        rw [← split]
        exact List.mem_range.mpr (less.trans (List.mem_range.mp member))
      rcases List.mem_append.mp otherMember with front | back
      · have none := fewer other front
        rw [candidate] at none
        exact Option.map_eq_none_iff.mp none
      · have later : ∀ c ∈ behind, count < c :=
          (List.pairwise_cons.mp (List.pairwise_append.mp ordered).2.1).1
        rcases List.mem_cons.mp back with rfl | back
        · exact absurd less (lt_irrefl _)
        · exact absurd less (later other back).asymm
    · rw [shortest_of_found nonzero found]
      exact Scientific.toRat_strip mostDigits _

namespace Shortest

variable {f : Format} {x : Finite f} {count point : Nat}

theorem abs_sub_le (shortest : x.Shortest count point) (nonzero : x.significand ≠ 0) :
    |x.shortest.toRat - x.magnitude| ≤ x.halfUnit := by
  rw [shortest.toRat_eq]
  exact abs_sub_le_of_owns nonzero (Span.of_gridPoint? shortest.found).1

theorem point_le (shortest : x.Shortest count point) (nonzero : x.significand ≠ 0) :
    point ≤ 10 ^ (count + 1) := by
  have most := (magnitude_between nonzero).2
  have le := (Span.of_gridPoint? shortest.found).2
  have below : x.span.center / 10 ^ x.gridExponent count < 10 ^ (count + 1) := by
    rw [center_span, div_lt_iff₀ (by positivity), ← zpow_natCast, ← zpow_add₀ (by norm_num)]
    calc x.magnitude < 10 ^ (x.span.leadingExponent + 1) := most
      _ = 10 ^ ((count + 1 : Nat) + x.gridExponent count) := by
        unfold gridExponent
        congr 1
        push_cast
        ring
  have cast : (point : ℚ) < 10 ^ (count + 1) + 1 := by linarith
  exact Nat.lt_succ_iff.mp (by exact_mod_cast cast)

theorem owns_of_equal (nonzero : x.significand ≠ 0) {significand : Nat} {exponent : Int}
    (equal : x.magnitude = significand * 10 ^ exponent) :
    x.span.gridPoint? exponent = some significand := by
  have center : x.span.center = significand * 10 ^ exponent := by rw [center_span, equal]
  have nearest := Span.nearestPoint_of_center x.span_denominator_pos center
  have pos := x.halfUnit_pos
  have no_distance : |significand * 10 ^ exponent - x.magnitude| ≤ 0 := by
    rw [equal, sub_self, abs_zero]
  rw [← nearest]
  apply Span.gridPoint?_of_owns
  rw [nearest]
  exact owns_of_abs_sub_lt nonzero no_distance pos fun _ => half_pos pos

/-- A float that lies on a grid is found there, unless it is found on a grid before. -/
theorem le_gridExponent (shortest : x.Shortest count point) (nonzero : x.significand ≠ 0)
    {significand : Nat} {exponent : Int} (equal : x.magnitude = significand * 10 ^ exponent) :
    exponent ≤ x.gridExponent count := by
  obtain ⟨least, most⟩ := magnitude_between nonzero
  have positive : 0 < significand := by
    apply Nat.pos_of_ne_zero
    rintro rfl
    rw [Nat.cast_zero, zero_mul] at equal
    rw [equal] at least
    exact absurd least (not_le.mpr (by positivity))
  have leading : exponent < x.span.leadingExponent + 1 := by
    rw [← zpow_lt_zpow_iff_right₀ (a := (10 : ℚ)) (by norm_num)]
    have one : (1 : ℚ) ≤ significand := by exact_mod_cast positive
    calc (10 : ℚ) ^ exponent ≤ significand * 10 ^ exponent :=
          le_mul_of_one_le_left (by positivity) one
      _ = x.magnitude := equal.symm
      _ < 10 ^ (x.span.leadingExponent + 1) := most
  by_contra beyond
  -- then its own grid has been searched before, and the float itself is found there
  have before : 0 ≤ x.span.leadingExponent - exponent := by omega
  obtain ⟨fewer, rest⟩ := Int.eq_ofNat_of_zero_le before
  have grid : x.gridExponent fewer = exponent := by
    unfold gridExponent
    omega
  have none := shortest.first fewer (by unfold gridExponent at beyond; omega)
  rw [grid, owns_of_equal nonzero equal] at none
  cases none

end Shortest

/-! The shortest decimal -/

theorem shortest_of_zero {f : Format} {x : Finite f} (zero : x.significand = 0) :
    x.shortest.toRat = x.magnitude := by
  unfold shortest magnitude
  rw [if_pos zero, zero]
  simp [Scientific.toRat]

theorem abs_shortest_sub_le (x : Finite binary64) :
    |x.shortest.toRat - x.magnitude| ≤ x.halfUnit := by
  by_cases zero : x.significand = 0
  · rw [shortest_of_zero zero, sub_self, abs_zero]
    exact x.halfUnit_pos.le
  · obtain ⟨count, point, shortest⟩ := exists_shortest zero
    exact shortest.abs_sub_le zero

theorem exists_shortest_eq (x : Finite binary64) :
    ∃ (significand : Nat) (exponent : Int), significand < 10 ^ 17 ∧
      x.shortest.toRat = significand * 10 ^ exponent := by
  by_cases zero : x.significand = 0
  · refine ⟨0, 0, by decide, ?_⟩
    rw [shortest_of_zero zero]
    simp [magnitude, zero]
  · obtain ⟨count, point, shortest⟩ := exists_shortest zero
    have fits : 10 ^ (count + 1) ≤ 10 ^ 17 :=
      Nat.pow_le_pow_right (by decide) shortest.count_lt
    rcases (shortest.point_le zero).eq_or_lt with full | less
    · refine ⟨1, (count + 1 : Nat) + x.gridExponent count, by decide, ?_⟩
      rw [shortest.toRat_eq, full, zpow_add₀ (by norm_num), zpow_natCast]
      push_cast
      ring
    · exact ⟨point, _, less.trans_le fits, shortest.toRat_eq⟩

theorem shortest_eq_or_coarser {x : Finite binary64} {significand : Nat} {exponent : Int}
    (equal : x.magnitude = significand * 10 ^ exponent) :
    x.shortest.toRat = x.magnitude ∨ ∃ n : Nat, x.shortest.toRat = n * 10 ^ (exponent + 1) := by
  by_cases zero : x.significand = 0
  · exact .inl (shortest_of_zero zero)
  · obtain ⟨count, point, shortest⟩ := exists_shortest zero
    rcases (shortest.le_gridExponent zero equal).eq_or_lt with same | coarser
    · have found := shortest.found
      rw [← same, Shortest.owns_of_equal zero equal, Option.some.injEq] at found
      refine .inl ?_
      rw [shortest.toRat_eq, ← found, ← same, equal]
    · obtain ⟨more, grid⟩ := Int.le.dest (Int.add_one_le_of_lt coarser)
      refine .inr ⟨point * 10 ^ more, ?_⟩
      rw [shortest.toRat_eq, ← grid, zpow_add₀ (by norm_num), zpow_natCast]
      push_cast
      ring

theorem exists_shortest_eq_mul {x : Finite binary64} {significand : Nat} {exponent : Int}
    (equal : x.magnitude = significand * 10 ^ exponent) :
    ∃ n : Nat, x.shortest.toRat = n * 10 ^ exponent := by
  rcases shortest_eq_or_coarser equal with same | ⟨n, coarser⟩
  · exact ⟨significand, same.trans equal⟩
  · refine ⟨10 * n, ?_⟩
    rw [coarser, zpow_add_one₀ (by norm_num)]
    push_cast
    ring

theorem halfUnit_mul_le {x : Finite binary64} (full : 2 ^ 52 ≤ x.significand) :
    x.halfUnit * 2 ^ 53 ≤ x.magnitude := by
  have least : (2 : ℚ) ^ 52 ≤ x.significand := by exact_mod_cast full
  have scaled := mul_le_mul_of_nonneg_right least x.halfUnit_pos.le
  rw [x.magnitude_eq]
  linarith

/-- A float of full precision that is a decimal with a significand of its own precision is its own
shortest decimal. -/
theorem shortest_eq_magnitude {x : Finite binary64} (full : 2 ^ 52 ≤ x.significand)
    {significand : Nat} {exponent : Int} (equal : x.magnitude = significand * 10 ^ exponent)
    (fits : significand < 2 ^ 53) : x.shortest.toRat = x.magnitude := by
  have near := x.abs_shortest_sub_le
  have small := halfUnit_mul_le full
  have grid : (0 : ℚ) < 10 ^ exponent := by positivity
  have below : (significand : ℚ) < 2 ^ 53 := by exact_mod_cast fits
  obtain ⟨n, onGrid⟩ := exists_shortest_eq_mul equal
  rw [onGrid, equal, ← sub_mul, abs_mul, abs_of_pos grid] at near
  rw [equal] at small
  have less : |(n : ℚ) - significand| * 10 ^ exponent < 1 * 10 ^ exponent := by
    have scaled := mul_lt_mul_of_pos_right below grid
    linarith
  have apart : |(n : Int) - significand| < 1 := by
    exact_mod_cast lt_of_mul_lt_mul_right less grid.le
  have same : n = significand := by
    have := Int.abs_lt_one_iff.mp apart
    omega
  rw [onGrid, same, equal]

/-! Whole floats -/

section Whole

variable {x : Finite binary64} {n : Nat}

theorem full_of_whole (pos : 0 < n) (whole : x.magnitude = n) : 2 ^ 52 ≤ x.significand := by
  obtain ⟨fits, -, -, least | full⟩ := x.canonical
  · have one : (1 : ℚ) ≤ n := by exact_mod_cast pos
    have significand : (x.significand : ℚ) < 2 ^ (53 : Int) := by exact_mod_cast fits
    have tiny : x.magnitude < 1 := by
      unfold magnitude
      rw [least]
      calc (x.significand : ℚ) * 2 ^ binary64.minExponent <
            2 ^ (53 : Int) * 2 ^ binary64.minExponent :=
          mul_lt_mul_of_pos_right significand (by positivity)
        _ = 2 ^ (53 + binary64.minExponent) := (zpow_add₀ (by norm_num) _ _).symm
        _ ≤ 2 ^ (0 : Int) := zpow_le_zpow_right₀ (by norm_num) (by decide)
        _ = 1 := zpow_zero 2
    rw [whole] at tiny
    linarith
  · exact full

theorem shortest_of_magnitude_eq_zero (zero : x.magnitude = 0) : x.shortest.toRat = 0 := by
  rw [shortest_of_zero, zero]
  unfold magnitude at zero
  have unit : (2 : ℚ) ^ x.exponent ≠ 0 := by positivity
  exact_mod_cast (mul_eq_zero.mp zero).resolve_right unit

theorem exists_shortest_eq_natCast (whole : x.magnitude = n) : ∃ m : Nat, x.shortest.toRat = m := by
  have equal : x.magnitude = n * 10 ^ (0 : Int) := by rw [whole, zpow_zero, mul_one]
  obtain ⟨m, onGrid⟩ := exists_shortest_eq_mul equal
  exact ⟨m, by rw [onGrid, zpow_zero, mul_one]⟩

theorem shortest_sub_mul_le (whole : x.magnitude = n) :
    |x.shortest.toRat - n| * 2 ^ 53 ≤ n := by
  rcases Nat.eq_zero_or_pos n with rfl | pos
  · rw [Nat.cast_zero] at whole
    rw [shortest_of_magnitude_eq_zero whole]
    simp
  · have near := x.abs_shortest_sub_le
    have small := halfUnit_mul_le (full_of_whole pos whole)
    rw [whole] at near small
    linarith

theorem exists_eq_two_mul (whole : x.magnitude = n) (least : 2 ^ 53 ≤ n) (less : n < 2 ^ 54) :
    x.halfUnit = 1 ∧ n = 2 * x.significand := by
  have fits : (x.significand : ℚ) < 2 ^ (53 : Int) := by exact_mod_cast x.canonical.1
  have small := halfUnit_mul_le (full_of_whole (by omega) whole)
  have low : (2 : ℚ) ^ (53 : Int) ≤ n := by exact_mod_cast least
  have high : (n : ℚ) < 2 ^ (54 : Int) := by exact_mod_cast less
  have two : (1 : ℚ) < 2 := by norm_num
  have above : 0 < x.exponent := by
    have unit : (1 : ℚ) < 2 ^ x.exponent := by
      by_contra below
      rw [← whole] at low
      unfold magnitude at low
      have : (x.significand : ℚ) * 2 ^ x.exponent ≤ x.significand * 1 := by
        gcongr
        exact not_lt.mp below
      linarith
    rwa [← zpow_zero (2 : ℚ), zpow_lt_zpow_iff_right₀ two] at unit
  have below : x.exponent - 1 < 1 := by
    have unit : x.halfUnit < 2 ^ (1 : Int) := by
      rw [whole] at small
      have half : x.halfUnit * 2 ^ 53 < 2 * 2 ^ 53 := by
        calc x.halfUnit * 2 ^ 53 ≤ n := small
          _ < 2 ^ (54 : Int) := high
          _ = 2 * 2 ^ 53 := by norm_num
      rw [zpow_one]
      exact lt_of_mul_lt_mul_right half (by positivity)
    rwa [halfUnit, zpow_lt_zpow_iff_right₀ two] at unit
  have unit : x.halfUnit = 1 := by
    unfold halfUnit
    rw [show x.exponent - 1 = 0 by omega, zpow_zero]
  refine ⟨unit, ?_⟩
  have double := x.magnitude_eq
  rw [whole, unit, mul_one] at double
  exact_mod_cast double

/-- Whole floats up to two to the fifty-fourth are their own shortest decimals. -/
theorem shortest_eq_of_le (whole : x.magnitude = n) (le : n ≤ 2 ^ 54) :
    x.shortest.toRat = n := by
  have equal : x.magnitude = n * 10 ^ (0 : Int) := by rw [whole, zpow_zero, mul_one]
  rcases Nat.eq_zero_or_pos n with rfl | pos
  · rw [Nat.cast_zero] at whole ⊢
    exact shortest_of_magnitude_eq_zero whole
  have full := full_of_whole pos whole
  rcases lt_or_ge n (2 ^ 53) with fits | least
  · rw [shortest_eq_magnitude full equal fits, whole]
  rcases shortest_eq_or_coarser equal with same | ⟨tens, coarser⟩
  · exact same.trans whole
  -- a multiple of ten that close is the float itself, or there is none
  have near := x.abs_shortest_sub_le
  rw [zero_add, zpow_one] at coarser
  rw [coarser, whole] at near
  rw [coarser]
  rcases le.eq_or_lt with rfl | less
  · have small := halfUnit_mul_le full
    rw [whole] at small
    have apart : |(tens : ℚ) * 10 - (2 ^ 54 : Nat)| ≤ 2 := by
      refine near.trans (le_of_mul_le_mul_right ?_ (show (0 : ℚ) < 2 ^ 53 by positivity))
      calc x.halfUnit * 2 ^ 53 ≤ (2 ^ 54 : Nat) := small
        _ = 2 * 2 ^ 53 := by norm_num
    have bounded : |(tens : Int) * 10 - (2 ^ 54 : Nat)| ≤ 2 := by exact_mod_cast apart
    rw [abs_le] at bounded
    omega
  · obtain ⟨unit, even⟩ := exists_eq_two_mul whole least less
    rw [unit] at near
    have bounded : |(tens : Int) * 10 - n| ≤ 1 := by exact_mod_cast near
    rw [abs_le] at bounded
    have same : tens * 10 = n := by omega
    exact_mod_cast same

end Whole

end Finite

end DotPath.Binary
