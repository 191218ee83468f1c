import DotPath.Proofs.DecimalDigits
import DotPath.Proofs.IntegerReading

/-!
Why a text is no integer of a type.  The digits are held against the bound of the wide integers one
by one, so a text that begins with too great an integer is out of range whatever follows; every
other text that spells no integer is unreadable.
-/

set_option autoImplicit false
set_option relaxedAutoImplicit false

namespace DotPath

/-! Digits that leave the bound -/

/-- The bound is left at the first beginning that is too great, and what stands behind it is never
looked at. -/
theorem readMagnitude_eq_tooGreat_iff {bound read : Nat} {text : List Char}
    (fits : read ≤ bound) :
    readMagnitude bound read text = .error .tooGreat ↔
      ∃ front, front <+: text ∧ (∀ c ∈ front, c.isDigit = true) ∧
        bound < Nat.ofDigitChars 10 front read := by
  induction text generalizing read with
  | nil =>
    simp only [readMagnitude, reduceCtorEq, List.prefix_nil, false_iff]
    rintro ⟨front, rfl, -, beyond⟩
    rw [Nat.ofDigitChars_nil] at beyond
    omega
  | cons c rest ih =>
    have nothing_yet : ¬bound < Nat.ofDigitChars 10 [] read := by
      rw [Nat.ofDigitChars_nil]
      omega
    by_cases digit : c.isDigit = true
    · have value (front : List Char) : Nat.ofDigitChars 10 (c :: front) read =
          Nat.ofDigitChars 10 front (10 * read + Text.digitValue c) := Nat.ofDigitChars_cons
      by_cases small : 10 * read + Text.digitValue c ≤ bound
      · simp only [readMagnitude, digit, small, if_true]
        rw [ih small]
        constructor
        · rintro ⟨front, begins, digits, beyond⟩
          refine ⟨c :: front, List.cons_prefix_cons.mpr ⟨rfl, begins⟩, ?_, ?_⟩
          · exact List.forall_mem_cons.mpr ⟨digit, digits⟩
          · rw [value]
            exact beyond
        · rintro ⟨front, begins, digits, beyond⟩
          rcases List.prefix_cons_iff.mp begins with rfl | ⟨more, rfl, within⟩
          · exact absurd beyond nothing_yet
          · rw [value] at beyond
            exact ⟨more, within, (List.forall_mem_cons.mp digits).2, beyond⟩
      · simp only [readMagnitude, digit, small, if_true, if_false, true_iff]
        refine ⟨[c], List.cons_prefix_cons.mpr ⟨rfl, List.nil_prefix⟩, ?_, ?_⟩
        · exact List.forall_mem_singleton.mpr digit
        · rw [value, Nat.ofDigitChars_nil]
          omega
    · simp only [readMagnitude, digit, Bool.false_eq_true, if_false, Except.error.injEq,
        reduceCtorEq, false_iff]
      rintro ⟨front, begins, digits, beyond⟩
      rcases List.prefix_cons_iff.mp begins with rfl | ⟨more, rfl, -⟩
      · exact nothing_yet beyond
      · exact digit (digits c List.mem_cons_self)

theorem readUnsigned_eq_tooGreat_iff {negative : Bool} {digits : List Char} :
    readUnsigned negative digits = .error .tooGreat ↔
      ∃ front, front <+: digits ∧ Text.isNumeral front = true ∧
        ¬IsWide (if negative then -(Text.value front : Int) else Text.value front) := by
  have beyond_iff (front : List Char) :
      ¬IsWide (if negative then -(Text.value front : Int) else Text.value front) ↔
        wideBound negative < Text.value front := by
    rw [isWide_iff_le_wideBound, Nat.not_le]
  simp only [beyond_iff]
  unfold readUnsigned
  cases digits with
  | nil =>
    simp only [List.isEmpty_nil, if_true, Except.error.injEq, reduceCtorEq, List.prefix_nil,
      false_iff]
    rintro ⟨front, rfl, numeral, -⟩
    exact (Text.isNumeral_iff.mp numeral).1 rfl
  | cons c rest =>
    have scanned : readMagnitude (wideBound negative) 0 (c :: rest) = .error .tooGreat ↔ _ :=
      readMagnitude_eq_tooGreat_iff (Nat.zero_le (wideBound negative))
    have read_iff :
        ((readMagnitude (wideBound negative) 0 (c :: rest)).map fun magnitude =>
            if negative then -(magnitude : Int) else magnitude) = .error .tooGreat ↔
          readMagnitude (wideBound negative) 0 (c :: rest) = .error .tooGreat := by
      cases readMagnitude (wideBound negative) 0 (c :: rest) with
      | ok n => simp [Except.map]
      | error fault => simp [Except.map]
    rw [if_neg (by simp), read_iff, scanned]
    refine exists_congr fun front => and_congr_right fun _ => ?_
    rw [Text.isNumeral_iff, and_assoc]
    refine (and_iff_right_of_imp ?_).symm
    rintro ⟨-, beyond⟩ rfl
    rw [Nat.ofDigitChars_nil] at beyond
    omega

/-- Texts that begin with an integer beyond the wide ones. -/
def BeginsTooGreat (text : List Char) : Prop :=
  ∃ front k, front <+: text ∧ SpellsInteger front k ∧ ¬IsWide k

private theorem not_spellsInteger_nil (k : Int) : ¬SpellsInteger [] k := by
  intro spells
  cases spells with
  | bare numeral => cases numeral

private theorem beginsTooGreat_sign {sign : Char} {digits : List Char} (signed : Nat → Int)
    (spells_iff : ∀ front k, SpellsInteger (sign :: front) k ↔
      Text.isNumeral front = true ∧ k = signed (Text.value front)) :
    BeginsTooGreat (sign :: digits) ↔
      ∃ front, front <+: digits ∧ Text.isNumeral front = true ∧
        ¬IsWide (signed (Text.value front)) := by
  constructor
  · rintro ⟨front, k, begins, spells, beyond⟩
    rcases List.prefix_cons_iff.mp begins with rfl | ⟨more, rfl, within⟩
    · exact absurd spells (not_spellsInteger_nil k)
    · obtain ⟨numeral, rfl⟩ := (spells_iff more k).mp spells
      exact ⟨more, within, numeral, beyond⟩
  · rintro ⟨front, within, numeral, beyond⟩
    exact ⟨sign :: front, _, List.cons_prefix_cons.mpr ⟨rfl, within⟩,
      (spells_iff front _).mpr ⟨numeral, rfl⟩, beyond⟩

private theorem beginsTooGreat_bare {text : List Char} (no_minus : ∀ rest, text ≠ '-' :: rest)
    (no_plus : ∀ rest, text ≠ '+' :: rest) :
    BeginsTooGreat text ↔
      ∃ front, front <+: text ∧ Text.isNumeral front = true ∧ ¬IsWide (Text.value front) := by
  constructor
  · rintro ⟨front, k, begins, spells, beyond⟩
    have no_sign {sign : Char} (other : ∀ rest, text ≠ sign :: rest) (more : List Char) :
        front ≠ sign :: more := by
      rintro rfl
      obtain ⟨rest, rfl⟩ := begins
      exact other (more ++ rest) rfl
    obtain ⟨numeral, rfl⟩ := (spellsInteger_bare_iff (no_sign no_minus) (no_sign no_plus)).mp spells
    exact ⟨front, begins, numeral, beyond⟩
  · rintro ⟨front, begins, numeral, beyond⟩
    exact ⟨front, _, begins, .bare numeral, beyond⟩

theorem readWide_eq_tooGreat_iff {text : List Char} :
    readWide text = .error .tooGreat ↔ BeginsTooGreat text := by
  unfold readWide
  split
  next =>
    simp only [Except.error.injEq, reduceCtorEq, false_iff]
    rintro ⟨front, k, begins, spells, -⟩
    rw [List.prefix_nil.mp begins] at spells
    exact not_spellsInteger_nil k spells
  next digits =>
    rw [readUnsigned_eq_tooGreat_iff,
      beginsTooGreat_sign (fun n => -(n : Int)) fun _ _ => spellsInteger_minus_iff]
    simp
  next digits =>
    rw [readUnsigned_eq_tooGreat_iff,
      beginsTooGreat_sign (fun n => (n : Int)) fun _ _ => spellsInteger_plus_iff]
    simp
  next no_minus no_plus =>
    rw [readUnsigned_eq_tooGreat_iff, beginsTooGreat_bare no_minus no_plus]
    simp

/-! Texts too short to leave the bound -/

theorem not_beginsTooGreat_of_short {text : List Char} (short : text.length ≤ 38) :
    ¬BeginsTooGreat text := by
  have bounded {digits : List Char} (few : digits.length ≤ 38)
      (numeral : Text.isNumeral digits = true) : Text.value digits < 2 ^ (127 : Nat) := by
    have below := Text.value_lt (Text.isNumeral_iff.mp numeral).2
    have most : 10 ^ digits.length ≤ 10 ^ (38 : Nat) := Nat.pow_le_pow_right (by decide) few
    omega
  rintro ⟨front, k, begins, spells, beyond⟩
  have few := begins.length_le.trans short
  apply beyond
  unfold IsWide
  cases spells with
  | bare numeral =>
    have small := bounded few numeral
    omega
  | plus numeral =>
    rw [List.length_cons] at few
    have small := bounded (Nat.le_of_succ_le few) numeral
    omega
  | minus numeral =>
    rw [List.length_cons] at few
    have small := bounded (Nat.le_of_succ_le few) numeral
    omega

/-! Texts as integers of a type -/

namespace Located

variable {type : IntegerType} {text : String}

theorem outcome_toInteger_of_beginsTooGreat (begins : BeginsTooGreat (Text.trim text.toList)) :
    ((found (.string text)).toInteger type).outcome =
      .error (.outOfRange (.integer type) (String.ofList (Text.trim text.toList))) := by
  have read := readWide_eq_tooGreat_iff.mpr begins
  rw [outcome_toInteger]
  simp only [toWide, wideOfText, read]
  rfl

theorem outcome_toInteger_of_spells {k : Int} (spells : SpellsInteger (Text.trim text.toList) k)
    (beyond : ¬type.Holds k) :
    ((found (.string text)).toInteger type).outcome =
      .error (.outOfRange (.integer type)
        (String.ofList (if IsWide k then Text.signedDigits k else Text.trim text.toList))) := by
  by_cases wide : IsWide k
  · have read := readWide_eq_ok_iff.mpr ⟨spells, wide⟩
    rw [outcome_toInteger, if_pos wide]
    simp only [toWide, wideOfText, read]
    exact if_neg beyond
  · rw [if_neg wide]
    exact outcome_toInteger_of_beginsTooGreat ⟨_, k, List.prefix_rfl, spells, wide⟩

theorem outcome_toInteger_of_malformed (malformed : ∀ k, ¬SpellsInteger (Text.trim text.toList) k)
    (bounded : ¬BeginsTooGreat (Text.trim text.toList)) :
    ∃ reason, ((found (.string text)).toInteger type).outcome =
      .error (.unreadable (.integer type) text reason) := by
  rw [outcome_toInteger]
  simp only [toWide, wideOfText]
  cases read : readWide (Text.trim text.toList) with
  | ok k => exact absurd (readWide_eq_ok_iff.mp read).1 (malformed k)
  | error fault =>
    cases fault with
    | tooGreat => exact absurd (readWide_eq_tooGreat_iff.mp read) bounded
    | empty => exact ⟨.emptyInteger, rfl⟩
    | badDigit => exact ⟨.badDigit, rfl⟩

theorem outcome_toInteger_text_eq_ok_iff {k : Int} :
    ((found (.string text)).toInteger type).outcome = .ok k ↔
      SpellsInteger (Text.trim text.toList) k ∧ type.Holds k := by
  rw [outcome_toInteger_eq_ok_iff, and_comm]
  refine and_congr_left fun _ => ⟨?_, .text⟩
  rintro (spells | _)
  exact spells

/-- A text is read as an integer of a type if it spells one in the range of the type.  It is out of
range if it spells an integer outside that range, or else begins with one beyond the wide integers,
whatever stands behind; and otherwise it is unreadable.  No text of up to 38 characters begins so:
among these the texts out of range are those that spell an integer outside the range of the type. -/
theorem toInteger_text_cases (type : IntegerType) (text : String) :
    ((∃ k, ((found (.string text)).toInteger type).outcome = .ok k) ↔
        ∃ k, SpellsInteger (Text.trim text.toList) k ∧ type.Holds k) ∧
      ((∃ value, ((found (.string text)).toInteger type).outcome =
          .error (.outOfRange (.integer type) value)) ↔
        (∃ k, SpellsInteger (Text.trim text.toList) k ∧ ¬type.Holds k) ∨
          BeginsTooGreat (Text.trim text.toList)) ∧
      ((∃ reason, ((found (.string text)).toInteger type).outcome =
          .error (.unreadable (.integer type) text reason)) ↔
        (∀ k, ¬SpellsInteger (Text.trim text.toList) k) ∧
          ¬BeginsTooGreat (Text.trim text.toList)) ∧
      ((Text.trim text.toList).length ≤ 38 → ¬BeginsTooGreat (Text.trim text.toList)) := by
  refine ⟨exists_congr fun k => outcome_toInteger_text_eq_ok_iff, ⟨?_, ?_⟩, ⟨?_, ?_⟩,
    not_beginsTooGreat_of_short⟩
  · rintro ⟨value, beyond⟩
    by_contra neither
    obtain ⟨held, bounded⟩ := not_or.mp neither
    by_cases spelled : ∃ k, SpellsInteger (Text.trim text.toList) k
    · obtain ⟨k, spells⟩ := spelled
      have holds : type.Holds k := not_not.mp fun outside => held ⟨k, spells, outside⟩
      cases beyond.symm.trans (outcome_toInteger_text_eq_ok_iff.mpr ⟨spells, holds⟩)
    · obtain ⟨reason, unreadable⟩ :=
        outcome_toInteger_of_malformed (not_exists.mp spelled) bounded
      cases beyond.symm.trans unreadable
  · rintro (⟨k, spells, outside⟩ | begins)
    · exact ⟨_, outcome_toInteger_of_spells spells outside⟩
    · exact ⟨_, outcome_toInteger_of_beginsTooGreat begins⟩
  · rintro ⟨reason, unreadable⟩
    refine ⟨fun k spells => ?_, fun begins => ?_⟩
    · by_cases holds : type.Holds k
      · cases unreadable.symm.trans (outcome_toInteger_text_eq_ok_iff.mpr ⟨spells, holds⟩)
      · cases unreadable.symm.trans (outcome_toInteger_of_spells spells holds)
    · cases unreadable.symm.trans (outcome_toInteger_of_beginsTooGreat begins)
  · rintro ⟨malformed, bounded⟩
    exact outcome_toInteger_of_malformed malformed bounded

/-- Digits beyond the wide integers with a letter behind them spell no integer, and yet the text is
out of range. -/
theorem letter_behind_digits_out_of_range :
    (∀ k, ¬SpellsInteger (Text.trim "999999999999999999999999999999999999999x".toList) k) ∧
      ((found (.string "999999999999999999999999999999999999999x")).toInteger .u64).outcome =
        .error (.outOfRange (.integer .u64) "999999999999999999999999999999999999999x") := by
  have head : (Text.trim "999999999999999999999999999999999999999x".toList).head? = some '9' := by
    rfl
  have no_sign {sign : Char} (other : sign ≠ '9') (rest : List Char) :
      Text.trim "999999999999999999999999999999999999999x".toList ≠ sign :: rest := by
    intro same
    rw [same] at head
    exact other (Option.some.inj head)
  have no_numeral :
      Text.isNumeral (Text.trim "999999999999999999999999999999999999999x".toList) = false := by
    rfl
  refine ⟨fun k spells => ?_, by rfl⟩
  have bare := (spellsInteger_bare_iff (no_sign (by decide)) (no_sign (by decide))).mp spells
  rw [no_numeral] at bare
  cases bare.1

end Located

end DotPath
