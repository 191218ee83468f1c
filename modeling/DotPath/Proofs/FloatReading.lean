import DotPath.Proofs.FloatRange
import DotPath.Reading.Fraction

/-!
What is read as a finite float.  A number of a document always is in the greater format, and in the
smaller one exactly below its overflow bound; a literal is unless it is a name or a numeral from the
overflow bound on.
-/

set_option autoImplicit false
set_option relaxedAutoImplicit false

namespace DotPath

open Binary (Datum Format Finite binary32 binary64)

/-! Numbers of documents -/

namespace Json.Number

theorem abs_lt_of_isExact {k : Int} (exact : IsExact k) : (k.natAbs : ℚ) < 2 ^ 64 := by
  unfold IsExact at exact
  have small : k.natAbs < 2 ^ 64 := by omega
  exact_mod_cast small

theorem exists_ofInt {k : Int} (exact : IsExact k) :
    ∃ x, binary64.ofInt k = .finite x ∧ x.magnitude < binary32.overflowBound := by
  have small := abs_lt_of_isExact exact
  have same : (k.natAbs : ℚ) / (1 : Nat) = k.natAbs := by simp
  have wide := Binary.two_pow_lt_overflowBound_binary64
  have below : (k.natAbs : ℚ) / (1 : Nat) < binary64.overflowBound := by
    rw [same]
    linarith
  obtain ⟨x, rounded, near⟩ :=
    Binary.nearest_of_lt (by decide) Nat.one_pos below (decide (k < 0))
  refine ⟨x, rounded, ?_⟩
  have tiny : (2 : ℚ) ^ (binary64.precision + binary64.minExponent : Int) ≤ 2 ^ (0 : Int) :=
    zpow_le_zpow_right₀ (by norm_num) (by decide)
  rw [same] at near
  rw [zpow_zero] at tiny
  rw [Binary.overflowBound_binary32]
  rcases near with near | near <;> linarith

theorem isFinite_toBinary64 (number : Json.Number) : number.toBinary64.IsFinite := by
  cases number with
  | integer k exact =>
    obtain ⟨x, rounded, -⟩ := exists_ofInt exact
    exact ⟨x, rounded⟩
  | float x => exact ⟨x, rfl⟩

theorem isFinite_convert_iff (number : Json.Number) :
    (number.toBinary64.convert binary32).IsFinite ↔ |number.toRat| < binary32.overflowBound := by
  cases number with
  | integer k exact =>
    obtain ⟨x, rounded, small⟩ := exists_ofInt exact
    have magnitude : |((k : Int) : ℚ)| < binary32.overflowBound := by
      rw [← Int.cast_abs, Int.abs_eq_natAbs, Int.cast_natCast, Binary.overflowBound_binary32]
      have := abs_lt_of_isExact exact
      linarith
    have finite : (x.convert binary32).IsFinite :=
      (Finite.isFinite_convert_iff (by decide) x).mpr small
    simp only [toBinary64, rounded, Datum.convert]
    exact iff_of_true finite magnitude
  | float x =>
    show (x.convert binary32).IsFinite ↔ |x.toRat| < binary32.overflowBound
    rw [x.abs_toRat]
    exact Finite.isFinite_convert_iff (by decide) x

end Json.Number

theorem Binary.Finite.isFinite_convert_binary64 (x : Finite binary32) :
    (x.convert binary64).IsFinite := by
  rw [Finite.isFinite_convert_iff (by decide)]
  have small := x.magnitude_lt_overflowBound
  have wide := Binary.two_pow_lt_overflowBound_binary64
  rw [Binary.overflowBound_binary32] at small
  linarith

/-! Literals -/

namespace Binary

/-- A format whose overflow bound lies where powers of ten are written out. -/
structure Format.WithinReach (f : Format) : Prop where
  wide : 0 < f.precision
  low : (10 : ℚ) ^ (-decimalReach) ≤ f.overflowBound
  high : f.overflowBound ≤ 10 ^ decimalReach

theorem withinReach_of_exponent {f : Format} (wide : 0 < f.precision)
    (low : 0 ≤ f.precision + f.maxExponent - 1)
    (high : f.precision + f.maxExponent ≤ 3 * decimalReach) : f.WithinReach := by
  refine ⟨wide, ?_, ?_⟩
  · calc (10 : ℚ) ^ (-decimalReach) ≤ 10 ^ (0 : Int) :=
          zpow_le_zpow_right₀ (by norm_num) (by decide)
      _ = 2 ^ (0 : Int) := by rw [zpow_zero, zpow_zero]
      _ ≤ 2 ^ (f.precision + f.maxExponent - 1 : Int) := zpow_le_zpow_right₀ (by norm_num) low
      _ ≤ f.overflowBound := le_overflowBound f
  · calc f.overflowBound ≤ 2 ^ (f.precision + f.maxExponent : Int) := (overflowBound_lt f).le
      _ ≤ 2 ^ (3 * decimalReach) := zpow_le_zpow_right₀ (by norm_num) high
      _ = (2 ^ (3 : Int)) ^ decimalReach := zpow_mul 2 3 decimalReach
      _ ≤ 10 ^ decimalReach := zpow_le_zpow_left₀ (by decide) (by norm_num) (by norm_num)

theorem withinReach_binary32 : binary32.WithinReach :=
  withinReach_of_exponent (by decide) (by decide) (by decide)

theorem withinReach_binary64 : binary64.WithinReach :=
  withinReach_of_exponent (by decide) (by decide) (by decide)

theorem digits_between {n : Nat} (pos : 0 < n) :
    (10 : ℚ) ^ ((Text.digits n).length - 1 : Int) ≤ n ∧
      (n : ℚ) < 10 ^ ((Text.digits n).length : Int) := by
  obtain ⟨count, length⟩ :=
    Nat.exists_eq_succ_of_ne_zero (List.length_pos_of_ne_nil (Text.digits_ne_nil n)).ne'
  have atMost : ∀ {k : Nat}, 0 < k → ((Text.digits n).length ≤ k ↔ n < 10 ^ k) :=
    Nat.length_toDigits_le_iff (by decide)
  rw [length] at atMost ⊢
  have cast : ((count.succ : Nat) : Int) - 1 = count := by omega
  rw [cast, zpow_natCast, zpow_natCast]
  constructor
  · by_contra less
    have small : n < 10 ^ count := by exact_mod_cast not_le.mp less
    cases count with
    | zero => omega
    | succ count =>
      have := (atMost (Nat.succ_pos count)).mpr small
      omega
  · exact_mod_cast (atMost (Nat.succ_pos count)).mp (Nat.le_refl _)

theorem isFinite_ofDecimal_iff {f : Format} (reach : f.WithinReach) (negative : Bool)
    (significand : Nat) (exponent : Int) :
    (f.ofDecimal negative significand exponent).IsFinite ↔
      (significand : ℚ) * 10 ^ exponent < f.overflowBound := by
  have one : (1 : ℚ) ≤ 10 := by norm_num
  have boundPos : 0 < f.overflowBound := lt_of_lt_of_le (by positivity) reach.low
  unfold Format.ofDecimal
  dsimp only
  by_cases zero : significand = 0
  · rw [if_pos (.inl zero), zero]
    refine iff_of_true ⟨_, rfl⟩ ?_
    simpa using boundPos
  · obtain ⟨least, most⟩ := digits_between (Nat.pos_of_ne_zero zero)
    have unit : (0 : ℚ) < 10 ^ exponent := by positivity
    generalize (Text.digits significand).length = count at *
    by_cases tiny : count + exponent < -decimalReach
    · rw [if_pos (.inr tiny)]
      refine iff_of_true ⟨_, rfl⟩ ?_
      calc (significand : ℚ) * 10 ^ exponent < 10 ^ (count : Int) * 10 ^ exponent := by gcongr
        _ = 10 ^ (count + exponent) := (zpow_add₀ (by norm_num) _ _).symm
        _ ≤ 10 ^ (-decimalReach) := zpow_le_zpow_right₀ one tiny.le
        _ ≤ f.overflowBound := reach.low
    · rw [if_neg (by simp only [zero, tiny, or_self, not_false_eq_true])]
      by_cases huge : decimalReach < count + exponent
      · rw [if_pos huge]
        refine iff_of_false (Datum.not_isFinite_infinite negative) (not_lt.mpr ?_)
        calc f.overflowBound ≤ 10 ^ decimalReach := reach.high
          _ ≤ 10 ^ (count - 1 + exponent : Int) := zpow_le_zpow_right₀ one (by omega)
          _ = 10 ^ (count - 1 : Int) * 10 ^ exponent := zpow_add₀ (by norm_num) _ _
          _ ≤ significand * 10 ^ exponent := by gcongr
      · have scaled := scaled_quotient 10 significand 1 exponent
        rw [Nat.one_mul, Nat.cast_one, div_one] at scaled
        rw [if_neg huge, isFinite_nearest_iff reach.wide (Nat.pow_pos (by decide)), scaled]
        exact_mod_cast Iff.rfl

namespace Literal

def decimal? (text : List Char) : Option (Nat × Int) :=
  let (whole, behindWhole) := Text.spanDigits text
  let (part, behindPart) := fraction behindWhole
  if whole.isEmpty && part.isEmpty then none
  else
    (exponent? behindPart).map fun exponent =>
      (Text.value (whole ++ part), exponent - part.length)

theorem digits?_eq (f : Format) (negative : Bool) (text : List Char) :
    digits? f negative text =
      (decimal? text).map fun decimal => f.ofDecimal negative decimal.1 decimal.2 := by
  unfold digits? decimal?
  dsimp only
  split
  · rfl
  · rw [Option.map_map]
    rfl

theorem not_isFinite_of_name? {f : Format} {negative : Bool} {text : List Char} {datum : Datum f}
    (named : name? f negative text = some datum) : ¬datum.IsFinite := by
  unfold name? at named
  dsimp only at named
  split at named
  · cases named
    exact Datum.not_isFinite_infinite negative
  · split at named
    · cases named
      exact Datum.not_isFinite_nan
    · cases named

end Literal

/-- A literal past the finite data of a format: a name of infinity or of not-a-number, or a numeral
from the overflow bound on. -/
inductive PastRange (f : Format) (text : List Char) : Prop
  | name (notDigits : Literal.decimal? (Literal.sign text).2 = none)
      (named : (Literal.name? f (Literal.sign text).1 (Literal.sign text).2).isSome)
  | numeral {significand : Nat} {exponent : Int}
      (digits : Literal.decimal? (Literal.sign text).2 = some (significand, exponent))
      (beyond : f.overflowBound ≤ (significand : ℚ) * 10 ^ exponent)

theorem readLiteral_eq_ok_iff {f : Format} {text : List Char} {datum : Datum f} :
    f.readLiteral text = .ok datum ↔
      (Literal.digits? f (Literal.sign text).1 (Literal.sign text).2).or
        (Literal.name? f (Literal.sign text).1 (Literal.sign text).2) = some datum := by
  unfold Format.readLiteral
  cases text with
  | nil =>
    have nothing : (Literal.digits? f false []).or (Literal.name? f false []) = none := rfl
    simp only [List.isEmpty_nil, if_true, Literal.sign, nothing, reduceCtorEq]
  | cons first rest =>
    simp only [List.isEmpty_cons, Bool.false_eq_true, if_false]
    cases (Literal.digits? f (Literal.sign (first :: rest)).1
        (Literal.sign (first :: rest)).2).or
      (Literal.name? f (Literal.sign (first :: rest)).1 (Literal.sign (first :: rest)).2) with
    | none => simp
    | some found => simp

theorem not_isFinite_readLiteral_iff {f : Format} (reach : f.WithinReach) (text : List Char) :
    (∃ datum, f.readLiteral text = .ok datum ∧ ¬datum.IsFinite) ↔ PastRange f text := by
  simp only [readLiteral_eq_ok_iff, Literal.digits?_eq]
  cases digits : Literal.decimal? (Literal.sign text).2 with
  | none =>
    simp only [Option.map_none, Option.none_or]
    constructor
    · rintro ⟨datum, named, -⟩
      refine .name digits ?_
      rw [named]
      rfl
    · intro past
      cases past with
      | name notDigits named =>
        obtain ⟨datum, named⟩ := Option.isSome_iff_exists.mp named
        exact ⟨datum, named, Literal.not_isFinite_of_name? named⟩
      | numeral other beyond =>
        rw [digits] at other
        cases other
  | some decimal =>
    obtain ⟨significand, exponent⟩ := decimal
    simp only [Option.map_some, Option.some_or, Option.some.injEq]
    constructor
    · rintro ⟨datum, rfl, notFinite⟩
      rw [isFinite_ofDecimal_iff reach, not_lt] at notFinite
      exact .numeral digits notFinite
    · intro past
      refine ⟨_, rfl, ?_⟩
      rw [isFinite_ofDecimal_iff reach, not_lt]
      cases past with
      | name notDigits named =>
        rw [digits] at notDigits
        cases notDigits
      | numeral other beyond =>
        rw [digits] at other
        cases other
        exact beyond

end Binary

/-! Nodes -/

namespace Located

open Binary (PastRange)

variable {here : Located}

theorem outcome_floatOfText_eq_ok_iff {f : Format} {target : ScalarType} {text : String}
    {datum : Datum f} :
    (floatOfText f target text).outcome = .ok datum ↔
      f.readLiteral (Text.trim text.toList) = .ok datum := by
  unfold floatOfText
  cases f.readLiteral (Text.trim text.toList) with
  | ok read => simp
  | error fault => cases fault <;> simp

theorem not_isFinite_floatOfText_iff {f : Format} (reach : f.WithinReach) {target : ScalarType}
    {text : String} :
    (∃ datum, (floatOfText f target text).outcome = .ok datum ∧ ¬datum.IsFinite) ↔
      PastRange f (Text.trim text.toList) := by
  rw [← Binary.not_isFinite_readLiteral_iff reach]
  simp only [outcome_floatOfText_eq_ok_iff]

theorem not_isFinite_toBinary64_iff :
    (∃ datum, here.toBinary64.outcome = .ok datum ∧ ¬datum.IsFinite) ↔
      ∃ text, here = .found (.string text) ∧ PastRange binary64 (Text.trim text.toList) := by
  have literals := @not_isFinite_floatOfText_iff binary64 Binary.withinReach_binary64 .float64
  constructor
  · rintro ⟨datum, read, notFinite⟩
    unfold toBinary64 at read
    split at read
    next text => exact ⟨text, rfl, literals.mp ⟨datum, read, notFinite⟩⟩
    next number =>
      cases read
      exact absurd number.isFinite_toBinary64 notFinite
    next => cases read
  · rintro ⟨text, rfl, past⟩
    exact literals.mpr past

/-- A node is read as no finite float of the smaller format exactly if it is a text past the range
of the format, or a number from the overflow bound on. -/
theorem not_isFinite_toBinary32_iff :
    (∃ datum, here.toBinary32.outcome = .ok datum ∧ ¬datum.IsFinite) ↔
      (∃ text, here = .found (.string text) ∧ PastRange binary32 (Text.trim text.toList)) ∨
        ∃ number : Json.Number, here = .found (.number number) ∧
          binary32.overflowBound ≤ |number.toRat| := by
  have literals := @not_isFinite_floatOfText_iff binary32 Binary.withinReach_binary32 .float32
  constructor
  · rintro ⟨datum, read, notFinite⟩
    unfold toBinary32 at read
    split at read
    next text => exact .inl ⟨text, rfl, literals.mp ⟨datum, read, notFinite⟩⟩
    next number =>
      cases read
      rw [number.isFinite_convert_iff, not_lt] at notFinite
      exact .inr ⟨number, rfl, notFinite⟩
    next => cases read
  · rintro (⟨text, rfl, past⟩ | ⟨number, rfl, beyond⟩)
    · exact literals.mpr past
    · refine ⟨_, rfl, ?_⟩
      rw [number.isFinite_convert_iff, not_lt]
      exact beyond

end Located

end DotPath
