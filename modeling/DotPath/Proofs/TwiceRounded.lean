import DotPath.Proofs.FloatReading
import DotPath.Proofs.NearestFloats
import Mathlib.Data.List.TakeWhile

/-!
Integers read in the smaller float format.  A text is rounded once and so to the nearest float, but
a number is rounded to the greater format first.  The two differ for just the integers so near to
the middle between two floats that the greater format does not tell them from it: from there it goes
to the even float, also where the odd one is nearer.
-/

set_option autoImplicit false
set_option relaxedAutoImplicit false

namespace DotPath

namespace Binary

/-! Rounding natural numbers twice -/

/-- Numbers at most half a small unit away from the middle between two neighbouring multiples of a
unit, but on the side of the odd one.  All is doubled, for the middle to be whole. -/
def NearMiddle (small unit n : Nat) : Prop :=
  ∃ q, q % 2 = 0 ∧ (2 * q + 1) * unit < 2 * n ∧ 2 * n ≤ (2 * q + 1) * unit + small ∨
    q % 2 = 1 ∧ 2 * n < (2 * q + 1) * unit ∧ (2 * q + 1) * unit ≤ 2 * n + small

section Twice

variable {n a b q : Nat}

theorem roundHalfEven_eq_of_lt (pos : 0 < b) (low : 2 * (q * b) < 2 * n + b)
    (high : 2 * n < 2 * (q * b) + b) : roundHalfEven n b = q :=
  roundHalfEven_eq pos low.le high.le (by omega)

private theorem middle_eq (q b : Nat) : (2 * q + 1) * b = 2 * (q * b) + b := by
  ring

theorem roundHalfEven_of_middle (pos : 0 < b) (middle : 2 * n = (2 * q + 1) * b) :
    roundHalfEven n b = if q % 2 = 0 then q else q + 1 := by
  rw [middle_eq] at middle
  split
  next even => exact roundHalfEven_eq pos (by omega) (by omega) fun _ => even
  next odd =>
    apply roundHalfEven_eq pos <;> rw [Nat.add_mul, Nat.one_mul] <;> omega

theorem roundHalfEven_of_gt_middle (pos : 0 < b) (above : (2 * q + 1) * b < 2 * n)
    (near : 2 * n < (2 * q + 1) * b + 2 * b) : roundHalfEven n b = q + 1 := by
  rw [middle_eq] at above near
  apply roundHalfEven_eq_of_lt pos <;> rw [Nat.add_mul, Nat.one_mul] <;> omega

theorem roundHalfEven_of_lt_middle (pos : 0 < b) (below : 2 * n < (2 * q + 1) * b)
    (near : (2 * q + 1) * b < 2 * n + 2 * b) : roundHalfEven n b = q := by
  rw [middle_eq] at below near
  apply roundHalfEven_eq_of_lt pos <;> omega

/-- A number that is rounded to no middle is rounded alike in one go. -/
theorem roundHalfEven_mul_of_not_middle (aPos : 0 < a) (bPos : 0 < b) (even : b % 2 = 0)
    (not_middle : ∀ q, 2 * roundHalfEven n a ≠ (2 * q + 1) * b) :
    roundHalfEven n (a * b) = roundHalfEven (roundHalfEven n a) b := by
  obtain ⟨low, high⟩ := roundHalfEven_near n aPos
  obtain ⟨low', high'⟩ := roundHalfEven_near (roundHalfEven n a) bPos
  generalize roundHalfEven n a = m at *
  generalize roundHalfEven m b = c at *
  -- what is not in a middle is at least one small unit away from it
  have above : 2 * (c * b) + 2 ≤ 2 * m + b := by
    cases c with
    | zero => omega
    | succ p =>
      have := not_middle p
      rw [middle_eq] at this
      rw [Nat.add_mul, Nat.one_mul] at *
      omega
  have below : 2 * m + 2 ≤ 2 * (c * b) + b := by
    have := not_middle c
    rw [middle_eq] at this
    omega
  have above_scaled := Nat.mul_le_mul_right a above
  have below_scaled := Nat.mul_le_mul_right a below
  rw [show (2 * (c * b) + 2) * a = 2 * (c * (a * b)) + 2 * a by ring,
    show (2 * m + b) * a = 2 * (m * a) + a * b by ring] at above_scaled
  rw [show (2 * (c * b) + b) * a = 2 * (c * (a * b)) + a * b by ring,
    show (2 * m + 2) * a = 2 * (m * a) + 2 * a by ring] at below_scaled
  exact roundHalfEven_eq_of_lt (Nat.mul_pos aPos bPos) (by omega) (by omega)

/-- Rounding first to a small unit and then to a multiple of it differs from rounding in one go just
near the middle between multiples. -/
theorem roundHalfEven_twice_ne_iff (aPos : 0 < a) (bPos : 0 < b) (quarters : b % 4 = 0) :
    roundHalfEven (roundHalfEven n a) b ≠ roundHalfEven n (a * b) ↔ NearMiddle a (a * b) n := by
  have pos : 0 < a * b := Nat.mul_pos aPos bPos
  have wide : a * 4 ≤ a * b := Nat.mul_le_mul_left a (by omega)
  have scaled {m q : Nat} (middle : 2 * m = (2 * q + 1) * b) :
      2 * (m * a) = (2 * q + 1) * (a * b) := by
    rw [← Nat.mul_assoc, middle]
    ring
  constructor
  · intro differ
    by_cases middle : ∃ q, 2 * roundHalfEven n a = (2 * q + 1) * b
    · obtain ⟨q, middle⟩ := middle
      obtain ⟨low, high⟩ := roundHalfEven_near n aPos
      rw [scaled middle] at low high
      rw [roundHalfEven_of_middle bPos middle] at differ
      refine ⟨q, ?_⟩
      -- from the middle it goes to the even multiple, so they differ on the side of the odd one
      rcases lt_trichotomy (2 * n) ((2 * q + 1) * (a * b)) with below | same | above
      · rw [roundHalfEven_of_lt_middle pos below (by omega)] at differ
        split at differ <;> omega
      · exact absurd (roundHalfEven_of_middle pos same).symm differ
      · rw [roundHalfEven_of_gt_middle pos above (by omega)] at differ
        split at differ <;> omega
    · rw [roundHalfEven_mul_of_not_middle aPos bPos (by omega) (not_exists.mp middle)] at differ
      exact absurd rfl differ
  · rintro ⟨q, near⟩
    -- the middle itself is a whole and even number of small units
    obtain ⟨half, halves⟩ : ∃ half, b = 2 * (2 * half) := ⟨b / 4, by omega⟩
    have middle : 2 * ((2 * q + 1) * (2 * half)) = (2 * q + 1) * b := by
      rw [halves]
      ring
    have even : (2 * q + 1) * (2 * half) % 2 = 0 := by
      rw [Nat.mul_left_comm, Nat.mul_mod_right]
    have nearest : roundHalfEven n a = (2 * q + 1) * (2 * half) := by
      apply roundHalfEven_eq aPos (n := (2 * q + 1) * (2 * half)) <;> rw [scaled middle] <;> omega
    rw [nearest, roundHalfEven_of_middle bPos middle]
    rcases near with ⟨parity, above, close⟩ | ⟨parity, below, close⟩
    · rw [roundHalfEven_of_gt_middle pos above (by omega), if_pos parity]
      omega
    · rw [roundHalfEven_of_lt_middle pos below (by omega), if_neg (by omega)]
      omega

end Twice

/-! Integers as floats -/

section Integers

variable {f : Format} {n shift : Nat} {negative : Bool}

theorem nearest_natural (wide : 0 < f.precision) (least : f.minExponent ≤ 0)
    (low : 2 ^ (f.precision - 1 + shift) ≤ n) (high : n ≤ 2 ^ (f.precision + shift))
    (negative : Bool) :
    f.nearest negative n 1 = f.assemble negative (roundHalfEven n (2 ^ shift)) shift := by
  have pos : 0 < n := (Nat.two_pow_pos _).trans_le low
  have cast : (f.precision : Int) - 1 = (f.precision - 1 : Nat) := by omega
  have enough : f.minExponent ≤ (shift : Int) := by omega
  rw [nearest_eq_assemble_of_unit wide pos Nat.one_pos enough]
  · simp [inUnits]
  · rw [Nat.cast_one, div_one, ← Nat.cast_add, zpow_natCast]
    exact_mod_cast high
  · rw [Nat.cast_one, div_one, cast, ← Nat.cast_add, zpow_natCast]
    exact_mod_cast low

theorem unitExponent_nonpos (least : f.minExponent ≤ 0) (pos : 0 < n)
    (fits : n < 2 ^ f.precision) : f.unitExponent n 1 ≤ 0 := by
  obtain ⟨-, -, normal⟩ := unitExponent_spec (f := f) pos Nat.one_pos
  rw [Nat.cast_one, div_one] at normal
  rcases normal with same | above
  · rwa [same]
  · have small : (n : ℚ) < 2 ^ (f.precision : Int) := by
      rw [zpow_natCast]
      exact_mod_cast fits
    have := (zpow_lt_zpow_iff_right₀ (by norm_num : (1 : ℚ) < 2)).mp (above.trans_lt small)
    omega

theorem magnitude_of_fits (wide : 2 ≤ f.precision) (least : f.minExponent ≤ 0)
    (fits : n < 2 ^ f.precision) {x : Finite f} (rounded : f.nearest negative n 1 = .finite x) :
    x.magnitude = n := by
  rcases Nat.eq_zero_or_pos n with rfl | pos
  · cases rounded
    exact (Finite.magnitude_zero f negative).trans Nat.cast_zero.symm
  have nonpos := unitExponent_nonpos least pos fits
  rw [nearest_eq_assemble pos] at rounded
  rw [(of_assemble wide rounded).2.1]
  unfold Format.rounded
  dsimp only
  generalize f.unitExponent n 1 = exponent at *
  obtain ⟨count, rfl⟩ : ∃ count : Nat, exponent = -count := ⟨exponent.natAbs, by omega⟩
  have whole : roundHalfEven (inUnits n 1 (-count)).1 (inUnits n 1 (-count)).2 = n * 2 ^ count := by
    apply roundHalfEven_of_eq_natCast (inUnits_snd_pos n Nat.one_pos _)
    rw [inUnits_quotient, Nat.cast_one, div_one, zpow_neg, zpow_natCast, div_inv_eq_mul]
    push_cast
    rfl
  rw [whole, zpow_neg, zpow_natCast]
  push_cast
  field_simp

theorem convert_eq_nearest (g : Format) {x : Finite f} (magnitude : x.magnitude = n) :
    x.convert g = g.nearest x.negative n 1 := by
  have pos : 0 < x.ratio.2 := Nat.two_pow_pos _
  apply nearest_congr pos Nat.one_pos
  rw [x.ratio_quotient, magnitude, Nat.cast_one, div_one]

theorem roundHalfEven_mul_right {a b c : Nat} (bPos : 0 < b) (cPos : 0 < c) :
    roundHalfEven (a * c) (b * c) = roundHalfEven a b := by
  apply roundHalfEven_congr (Nat.mul_pos bPos cPos) bPos
  push_cast
  exact mul_div_mul_right _ _ (by exact_mod_cast cPos.ne')

theorem assemble_inj {a b : Nat} {exponent : Int} (wide : 2 ≤ f.precision)
    (finite : (f.assemble negative a exponent).IsFinite) :
    f.assemble negative a exponent = f.assemble negative b exponent ↔ a = b := by
  constructor
  · intro same
    obtain ⟨x, assembled⟩ := finite
    have unit : (2 : ℚ) ^ exponent ≠ 0 := by positivity
    have equal := (of_assemble wide assembled).2.1.symm.trans
      (of_assemble wide (same.symm.trans assembled)).2.1
    exact_mod_cast mul_right_cancel₀ unit equal
  · rintro rfl
    rfl

end Integers

/-- The weight of the last bit of a significand, for natural numbers with no fewer bits. -/
def Format.lastPlace (f : Format) (n : Nat) : Nat :=
  2 ^ (n.log2 + 1 - f.precision)

/-- Natural numbers beyond the significands of the greater format that it rounds to the middle
between two floats of the smaller one, though they lie on the side of the odd float. -/
def RoundsApart (n : Nat) : Prop :=
  2 ^ binary64.precision ≤ n ∧ NearMiddle (binary64.lastPlace n) (binary32.lastPlace n) n

section Apart

variable {k : Int} {d : Finite binary64}

theorem convert_ofInt_of_fits (fits : k.natAbs < 2 ^ 53) (rounded : binary64.ofInt k = .finite d) :
    d.convert binary32 = binary32.ofInt k := by
  rw [convert_eq_nearest binary32 (magnitude_of_fits (by decide) (by decide) fits rounded),
    negative_of_nearest (by decide) rounded]
  rfl

/-- What has the bits of the greater significand before a shift is rounded to the smaller one with
the bits between the two added to the shift. -/
theorem nearest_binary32_of_wide {n shift : Nat} (low : 2 ^ (52 + shift) ≤ n)
    (high : n ≤ 2 ^ (53 + shift)) (negative : Bool) :
    binary32.nearest negative n 1 =
      binary32.assemble negative (roundHalfEven n (2 ^ (29 + shift))) (29 + shift : Nat) := by
  have low_narrow : 2 ^ (23 + (29 + shift)) ≤ n := by
    rwa [← Nat.add_assoc]
  have high_narrow : n ≤ 2 ^ (24 + (29 + shift)) := by
    rwa [← Nat.add_assoc]
  exact nearest_natural (by decide) (by decide) low_narrow high_narrow negative

theorem convert_ofInt_of_wide {shift : Nat} (low : 2 ^ (52 + shift) ≤ k.natAbs)
    (high : k.natAbs < 2 ^ (53 + shift)) (rounded : binary64.ofInt k = .finite d) :
    d.convert binary32 = binary32.assemble (decide (k < 0))
      (roundHalfEven (roundHalfEven k.natAbs (2 ^ shift)) (2 ^ 29)) (29 + shift : Nat) := by
  have shiftPos : 0 < 2 ^ shift := Nat.two_pow_pos shift
  have least : 2 ^ 52 ≤ roundHalfEven k.natAbs (2 ^ shift) :=
    le_roundHalfEven shiftPos (by rwa [← Nat.pow_add])
  have most : roundHalfEven k.natAbs (2 ^ shift) ≤ 2 ^ 53 :=
    roundHalfEven_le shiftPos (by rwa [← Nat.pow_add])
  unfold Format.ofInt at rounded
  rw [nearest_natural (by decide) (by decide) low high.le] at rounded
  obtain ⟨sign, magnitude, -⟩ := of_assemble (by decide) rounded
  generalize roundHalfEven k.natAbs (2 ^ shift) = significand at *
  have natural : d.magnitude = (significand * 2 ^ shift : Nat) := by
    rw [magnitude, zpow_natCast]
    push_cast
    rfl
  have low_shifted : 2 ^ (52 + shift) ≤ significand * 2 ^ shift := by
    rw [Nat.pow_add]
    exact Nat.mul_le_mul_right _ least
  have high_shifted : significand * 2 ^ shift ≤ 2 ^ (53 + shift) := by
    rw [Nat.pow_add]
    exact Nat.mul_le_mul_right _ most
  rw [convert_eq_nearest binary32 natural, sign,
    nearest_binary32_of_wide low_shifted high_shifted, Nat.pow_add,
    roundHalfEven_mul_right (Nat.two_pow_pos 29) shiftPos]

theorem convert_ofInt_eq_iff_of_wide {shift : Nat} (low : 2 ^ (52 + shift) ≤ k.natAbs)
    (high : k.natAbs < 2 ^ (53 + shift)) (finite : (binary32.ofInt k).IsFinite)
    (rounded : binary64.ofInt k = .finite d) :
    d.convert binary32 = binary32.ofInt k ↔
      ¬NearMiddle (2 ^ shift) (2 ^ shift * 2 ^ 29) k.natAbs := by
  have once : binary32.ofInt k = binary32.assemble (decide (k < 0))
      (roundHalfEven k.natAbs (2 ^ shift * 2 ^ 29)) (29 + shift : Nat) := by
    rw [← Nat.pow_add, Nat.add_comm shift]
    exact nearest_binary32_of_wide low high.le _
  rw [once] at finite
  rw [once, convert_ofInt_of_wide low high rounded, eq_comm, assemble_inj (by decide) finite,
    eq_comm, ← not_iff_not, not_not]
  exact roundHalfEven_twice_ne_iff (Nat.two_pow_pos shift) (Nat.two_pow_pos 29) (by decide)

/-- Integers come out of the greater format as they are rounded at once, except those near to the
middle between two floats of the smaller format. -/
theorem convert_ofInt_eq_iff (finite : (binary32.ofInt k).IsFinite)
    (rounded : binary64.ofInt k = .finite d) :
    d.convert binary32 = binary32.ofInt k ↔ ¬RoundsApart k.natAbs := by
  unfold RoundsApart
  by_cases wide : 2 ^ binary64.precision ≤ k.natAbs
  · have nonzero : k.natAbs ≠ 0 := ((Nat.two_pow_pos _).trans_le wide).ne'
    have bits : 53 ≤ k.natAbs.log2 := (Nat.le_log2 nonzero).mpr wide
    have low := Nat.log2_self_le nonzero
    have high := Nat.lt_log2_self (n := k.natAbs)
    unfold Format.lastPlace
    -- the shift counts the bits that the significand of the greater format leaves out
    obtain ⟨shift, log⟩ : ∃ shift, k.natAbs.log2 = 52 + shift := ⟨k.natAbs.log2 - 52, by omega⟩
    rw [log] at low high ⊢
    have unit : 52 + shift + 1 - binary64.precision = shift := by
      show 52 + shift + 1 - 53 = shift
      omega
    have narrow_unit : 52 + shift + 1 - binary32.precision = shift + 29 := by
      show 52 + shift + 1 - 24 = shift + 29
      omega
    rw [unit, narrow_unit, Nat.pow_add]
    simp only [wide, true_and]
    rw [Nat.add_right_comm] at high
    exact convert_ofInt_eq_iff_of_wide low high finite rounded
  · simp only [wide, false_and, not_false_eq_true, iff_true]
    exact convert_ofInt_of_fits (not_le.mp wide) rounded

end Apart

/-! Bits -/

private theorem succ_mul_le_of_lt {a b : Nat} (less : a < b) (c : Nat) : a * c + c ≤ b * c := by
  rw [← Nat.succ_mul]
  exact Nat.mul_le_mul_right c less

/-- The exponent field and the trailing significand together tell the exponent and the significand,
as the leading bit is left out just where the exponent is not the least or the bit is set. -/
private theorem fields_inj {hidden significand other : Nat} {least exponent otherExponent : Int}
    (fits : significand < 2 * hidden) (otherFits : other < 2 * hidden)
    (low : least ≤ exponent) (otherLow : least ≤ otherExponent)
    (normal : exponent = least ∨ hidden ≤ significand)
    (otherNormal : otherExponent = least ∨ hidden ≤ other)
    (same : (if significand < hidden then significand
        else (exponent - least + 1).toNat * hidden + (significand - hidden)) =
      if other < hidden then other
        else (otherExponent - least + 1).toNat * hidden + (other - hidden)) :
    significand = other ∧ exponent = otherExponent := by
  obtain ⟨field, rfl⟩ : ∃ field : Nat, exponent = least + field :=
    ⟨(exponent - least).toNat, by omega⟩
  obtain ⟨otherField, rfl⟩ : ∃ field : Nat, otherExponent = least + field :=
    ⟨(otherExponent - least).toNat, by omega⟩
  have weight (field : Nat) : (least + field - least + 1).toNat * hidden =
      field * hidden + hidden := by
    rw [← Nat.succ_mul]
    congr 1
    omega
  rw [weight, weight] at same
  rcases lt_trichotomy field otherField with less | rfl | greater
  · have := succ_mul_le_of_lt less hidden
    split at same <;> split at same <;> omega
  · split at same <;> split at same <;> omega
  · have := succ_mul_le_of_lt greater hidden
    split at same <;> split at same <;> omega

theorem bits_finite_inj {f : Format} (wide : 0 < f.precision) {x y : Finite f}
    (sign : x.negative = y.negative) :
    (Datum.finite x).bits = (Datum.finite y).bits ↔ x = y := by
  refine ⟨fun same => ?_, fun same => same ▸ rfl⟩
  obtain ⟨fits, low, -, normal⟩ := x.canonical
  obtain ⟨otherFits, otherLow, -, otherNormal⟩ := y.canonical
  rw [f.two_pow_precision wide] at fits otherFits
  have fields : x.significand = y.significand ∧ x.exponent = y.exponent := by
    apply fields_inj fits otherFits low otherLow normal otherNormal
    apply Nat.add_left_cancel (n := Datum.bits.signBit (f := f) x.negative)
    unfold Datum.bits at same
    dsimp only at same
    rw [← sign, Nat.add_assoc, Nat.add_assoc] at same
    rw [apply_ite (_ + ·), apply_ite (_ + ·)]
    exact same
  cases x
  cases y
  simp only [Finite.mk.injEq]
  exact ⟨sign, fields⟩

/-! Digits as floats -/

theorem ofDecimal_natural (f : Format) (negative : Bool) {n : Nat}
    (short : (Text.digits n).length ≤ decimalReach) :
    f.ofDecimal negative n 0 = f.nearest negative n 1 := by
  have present : ¬((Text.digits n).length : Int) < -decimalReach := by
    unfold decimalReach
    omega
  unfold Format.ofDecimal
  dsimp only
  by_cases zero : n = 0
  · simp [zero, Format.nearest]
  · simp [zero, not_lt.mpr short, present]

namespace Literal

theorem sign_signedDigits (k : Int) :
    sign (Text.signedDigits k) = (decide (k < 0), Text.digits k.natAbs) := by
  unfold Text.signedDigits
  split
  next negative => simp [sign, negative]
  next nonnegative =>
    have digit {c : Char} {rest : List Char} (digits : Text.digits k.natAbs = c :: rest) :
        c.isDigit = true :=
      Text.isDigit_of_mem_digits (digits ▸ List.mem_cons_self)
    unfold sign
    split
    next digits => cases digit digits
    next digits => cases digit digits
    next => simp [nonnegative]

theorem decimal?_digits (n : Nat) : decimal? (Text.digits n) = some (n, 0) := by
  have digits : ∀ c ∈ Text.digits n, c.isDigit = true := fun _ => Text.isDigit_of_mem_digits
  have spanned : Text.spanDigits (Text.digits n) = (Text.digits n, []) := by
    unfold Text.spanDigits
    rw [List.takeWhile_eq_self_iff.mpr digits, List.dropWhile_eq_nil_iff.mpr digits]
  unfold decimal?
  rw [spanned]
  simp [fraction, exponent?, Text.digits_ne_nil]

end Literal

theorem readLiteral_signedDigits (f : Format) {k : Int}
    (short : (Text.digits k.natAbs).length ≤ decimalReach) :
    f.readLiteral (Text.signedDigits k) = .ok (f.ofInt k) := by
  rw [readLiteral_eq_ok_iff, Literal.sign_signedDigits, Literal.digits?_eq, Literal.decimal?_digits]
  simp only [Option.map_some, Option.some_or, ofDecimal_natural f _ short]
  rfl

end Binary

/-! Nodes -/

namespace Located

open Binary (Datum Finite RoundsApart binary32 binary64)

theorem length_digits_le_of_isExact {k : Int} (exact : Json.IsExact k) :
    (Text.digits k.natAbs).length ≤ 20 := by
  unfold Json.IsExact at exact
  exact (Nat.length_toDigits_le_iff (by decide) (by decide)).mpr (by omega)

theorem isFinite_ofInt_binary32 {k : Int} (exact : Json.IsExact k) :
    (binary32.ofInt k).IsFinite := by
  have small := Json.Number.abs_lt_of_isExact exact
  unfold Binary.Format.ofInt
  rw [Binary.isFinite_nearest_iff (by decide) Nat.one_pos, Nat.cast_one, div_one,
    Binary.overflowBound_binary32]
  linarith

/-- An integer of 64 bits in a text is read as the float nearest to it, and as a number it is read
as the float nearest to its nearest float of the greater format.  The two have the same bits unless
the integer is near to the middle between two floats. -/
theorem toBinary32_integer_forms (k : Int) (exact : Json.IsExact k) :
    ∃ (x y : Finite binary32) (d : Finite binary64),
      (found (.string (String.ofList (Text.signedDigits k)))).toBinary32.outcome =
          .ok (.finite x) ∧
        x.IsNearest k ∧
      (found (.number (.integer k exact))).toBinary32.outcome = .ok (.finite y) ∧
        d.IsNearest k ∧ y.IsNearest d.toRat ∧
      ((Datum.finite y).bits = (Datum.finite x).bits ↔ ¬RoundsApart k.natAbs) := by
  obtain ⟨x, once⟩ := isFinite_ofInt_binary32 exact
  obtain ⟨d, wide, small⟩ := Json.Number.exists_ofInt exact
  obtain ⟨y, twice⟩ := (Finite.isFinite_convert_iff (g := binary32) (by decide) d).mpr small
  have same := Binary.convert_ofInt_eq_iff ⟨x, once⟩ wide
  rw [once, twice, Datum.finite.injEq] at same
  refine ⟨x, y, d, ?_, Binary.isNearest_ofInt (by decide) once, ?_,
    Binary.isNearest_ofInt (by decide) wide, Binary.isNearest_convert (by decide) twice, ?_⟩
  · refine outcome_floatOfText_eq_ok_iff.mpr ?_
    have short := length_digits_le_of_isExact exact
    rw [String.toList_ofList, trim_signedDigits, Binary.readLiteral_signedDigits, once]
    unfold Binary.decimalReach
    omega
  · simp only [toBinary32, Json.Number.toBinary64, wide, Datum.convert, twice]
    rfl
  · rw [← same]
    apply Binary.bits_finite_inj (by decide)
    calc y.negative = d.negative := Binary.negative_of_nearest (by decide) twice
      _ = decide (k < 0) := Binary.negative_of_nearest (by decide) wide
      _ = x.negative := (Binary.negative_of_nearest (by decide) once).symm

theorem toBinary32_integer_above_middle :
    Json.IsExact 9007199791611905 ∧
      ∃ (x y : Finite binary32) (d : Finite binary64),
        (found (.string (String.ofList (Text.signedDigits 9007199791611905)))).toBinary32.outcome =
            .ok (.finite x) ∧
          x.IsNearest 9007199791611905 ∧
        (found (.number (.integer 9007199791611905 (by decide)))).toBinary32.outcome =
            .ok (.finite y) ∧
          d.IsNearest 9007199791611905 ∧ y.IsNearest d.toRat ∧
        (Datum.finite y).bits ≠ (Datum.finite x).bits := by
  have exact : Json.IsExact 9007199791611905 := by decide
  have apart : RoundsApart 9007199791611905 :=
    ⟨by decide, 2 ^ 23, .inl ⟨by decide, by decide, by decide⟩⟩
  obtain ⟨x, y, d, text, nearest, number, wide, narrow, same⟩ :=
    toBinary32_integer_forms 9007199791611905 exact
  exact ⟨exact, x, y, d, text, by exact_mod_cast nearest, number, by exact_mod_cast wide, narrow,
    fun equal => same.mp equal apart⟩

theorem toBinary32_number_further :
    ∃ x y : Finite binary32,
      (found (.string "9007199791611905")).toBinary32.outcome = .ok (.finite x) ∧
        (found (.number (.integer 9007199791611905 (by decide)))).toBinary32.outcome =
          .ok (.finite y) ∧
        (Datum.finite x).bits = 0x5a000001 ∧ (Datum.finite y).bits = 0x5a000000 ∧
        |9007199791611905 - x.toRat| < |9007199791611905 - y.toRat| := by
  refine ⟨⟨false, 2 ^ 23 + 1, 30, by decide⟩, ⟨false, 2 ^ 23, 30, by decide⟩, ?_, ?_, ?_, ?_, ?_⟩
  · decide +kernel
  · decide +kernel
  · decide +kernel
  · decide +kernel
  · decide +kernel

end Located

end DotPath
