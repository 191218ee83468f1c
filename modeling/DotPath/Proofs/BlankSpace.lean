import DotPath.Proofs.IntegerReading
import DotPath.Proofs.TimeTargets
import DotPath.Reading.Target

/-!
Blank space around a text.  Every scalar type reads a text without the blank space at its ends, each
at a place of its own; what is left of the whole text is that a refusal as unreadable quotes it.
-/

set_option autoImplicit false
set_option relaxedAutoImplicit false

namespace DotPath

/-- The same failure with another text quoted, if it quotes one as unreadable. -/
def Failure.quoting (text : String) : Failure → Failure
  | .unreadable target _ reason => .unreadable target text reason
  | failure => failure

section Quoting

variable {α β : Type}

def quotingOutcome (text : String) (outcome : Except Failure α) : Except Failure α :=
  outcome.mapError (Failure.quoting text)

theorem quotingOutcome_ok (text : String) (value : α) :
    quotingOutcome text (.ok value) = .ok value :=
  rfl

theorem quotingOutcome_error (text : String) (failure : Failure) :
    quotingOutcome text (.error failure : Except Failure α) = .error (failure.quoting text) :=
  rfl

theorem quotingOutcome_map (text : String) (f : α → β) (outcome : Except Failure α) :
    quotingOutcome text (outcome.map f) = (quotingOutcome text outcome).map f := by
  cases outcome with
  | ok value => rfl
  | error failure => rfl

theorem quotingOutcome_bind {text : String} {next : α → Except Failure β}
    (fixed : ∀ value, quotingOutcome text (next value) = next value)
    (outcome : Except Failure α) :
    quotingOutcome text (outcome.bind next) = (quotingOutcome text outcome).bind next := by
  cases outcome with
  | ok value => exact fixed value
  | error failure => rfl

end Quoting

namespace Located

variable {text other : String}

section Trimmed

variable (same : Text.trim text.toList = Text.trim other.toList)

include same

private theorem outcome_toBool_of_trim :
    (toBool (.found (.string other))).outcome =
      quotingOutcome other (toBool (.found (.string text))).outcome := by
  have truths : readTruth? other.toList = readTruth? text.toList := by
    unfold readTruth?
    rw [same]
  simp only [toBool, truths]
  cases readTruth? text.toList with
  | some value => rfl
  | none => rfl

private theorem outcome_wideOfText_of_trim (target : ScalarType) :
    (wideOfText target other).outcome = quotingOutcome other (wideOfText target text).outcome := by
  unfold wideOfText
  rw [same]
  dsimp only
  cases readWide (Text.trim other.toList) with
  | ok k => rfl
  | error fault =>
    cases fault with
    | empty => rfl
    | badDigit => rfl
    | tooGreat => rfl

private theorem outcome_toInteger_of_trim (type : IntegerType) :
    (toInteger type (.found (.string other))).outcome =
      quotingOutcome other (toInteger type (.found (.string text))).outcome := by
  have fixed (k : Int) :
      let narrowed : Except Failure Int :=
        if type.Holds k then .ok k
        else .error (.outOfRange (.integer type) (String.ofList (Text.signedDigits k)))
      quotingOutcome other narrowed = narrowed := by
    dsimp only
    split
    · rfl
    · rfl
  rw [outcome_toInteger, outcome_toInteger, quotingOutcome_bind fixed]
  exact congrArg (Except.bind · _) (outcome_wideOfText_of_trim same (.integer type))

private theorem outcome_floatOfText_of_trim (f : Binary.Format) (target : ScalarType) :
    (floatOfText f target other).outcome =
      quotingOutcome other (floatOfText f target text).outcome := by
  unfold floatOfText
  rw [same]
  cases f.readLiteral (Text.trim other.toList) with
  | ok datum => rfl
  | error fault =>
    cases fault with
    | empty => rfl
    | malformed => rfl

private theorem outcome_toDecimal_of_trim :
    (toDecimal (.found (.string other))).outcome =
      quotingOutcome other (toDecimal (.found (.string text))).outcome := by
  simp only [toDecimal, same]
  cases Decimal.ofText (Text.trim other.toList) with
  | ok d => rfl
  | error fault => rfl

/-- A failed attempt to count an epoch quotes the whole text, but its failure is dropped. -/
private theorem outcome_epochCount_of_trim :
    (epochCount (.found (.string other))).outcome =
      (epochCount (.found (.string text))).outcome := by
  have integers := outcome_toInteger_of_trim same .i64
  cases read : (toInteger .i64 (.found (.string text))).outcome with
  | ok k =>
    rw [read, quotingOutcome_ok] at integers
    simp only [epochCount, read, integers]
  | error failure =>
    rw [read, quotingOutcome_error] at integers
    simp only [epochCount, read, integers]

private theorem outcome_toTime_of_trim {α : Type} (target : ScalarType)
    (ofEpoch : Calendar.DateTime → α) (ofText? : List Char → Option α) :
    (toTime target ofEpoch ofText? (.found (.string other))).outcome =
      quotingOutcome other (toTime target ofEpoch ofText? (.found (.string text))).outcome := by
  obtain ⟨count, epoch⟩ := exists_outcome_epochCount (.found (.string text))
  have other_epoch := (outcome_epochCount_of_trim same).trans epoch
  simp only [toTime, Logged.outcome_bind, epoch, other_epoch, Except.bind, same]
  cases count with
  | some count =>
    simp only [timeOfEpoch]
    split
    · rfl
    · rfl
  | none =>
    cases ofText? (Text.trim other.toList) with
    | some time => rfl
    | none => rfl

theorem outcome_read_of_trim (type : ScalarType) :
    (type.read (.found (.string other))).outcome =
      quotingOutcome other (type.read (.found (.string text))).outcome := by
  cases type with
  | arrayLength => rfl
  | bool =>
    simp only [ScalarType.read, Logged.outcome_map, quotingOutcome_map,
      outcome_toBool_of_trim same]
  | integer type =>
    simp only [ScalarType.read, Logged.outcome_map, quotingOutcome_map,
      outcome_toInteger_of_trim same]
  | float32 =>
    simp only [ScalarType.read, Logged.outcome_map, quotingOutcome_map, toBinary32,
      outcome_floatOfText_of_trim same]
  | float64 =>
    simp only [ScalarType.read, Logged.outcome_map, quotingOutcome_map, toBinary64,
      outcome_floatOfText_of_trim same]
  | decimal =>
    simp only [ScalarType.read, Logged.outcome_map, quotingOutcome_map,
      outcome_toDecimal_of_trim same]
  | dateTime =>
    simp only [ScalarType.read, Logged.outcome_map, quotingOutcome_map, toDateTime,
      outcome_toTime_of_trim same]
  | zonedDateTime =>
    simp only [ScalarType.read, Logged.outcome_map, quotingOutcome_map, toZonedDateTime,
      outcome_toTime_of_trim same]

end Trimmed

theorem quoting_of_read {type : ScalarType} {failure : Failure}
    (fails : (type.read (.found (.string text))).outcome = .error failure) :
    failure.quoting text = failure := by
  have same := outcome_read_of_trim (rfl : Text.trim text.toList = _) type
  rw [fails, quotingOutcome_error] at same
  exact (Except.error.inj same).symm

theorem trim_padded {before after : String}
    (blank_before : ∀ c ∈ before.toList, Text.isBlank c = true)
    (blank_after : ∀ c ∈ after.toList, Text.isBlank c = true) (text : String) :
    Text.trim text.toList = Text.trim (before ++ text ++ after).toList := by
  rw [String.toList_append, String.toList_append]
  exact (Text.trim_append blank_before blank_after text.toList).symm

/-- Blank space around a text makes no difference to reading it as a scalar.  With it and without it
the text has the same value or is refused in the same way, except that a refusal as unreadable
quotes the text as it stands, blank space and all. -/
theorem read_padded (type : ScalarType) (text before after : String)
    (blank_before : ∀ c ∈ before.toList, Text.isBlank c = true)
    (blank_after : ∀ c ∈ after.toList, Text.isBlank c = true) :
    (∀ answer, (type.read (.found (.string (before ++ text ++ after)))).outcome = .ok answer ↔
        (type.read (.found (.string text))).outcome = .ok answer) ∧
      ∀ failure, (type.read (.found (.string text))).outcome = .error failure →
        ∃ other, (type.read (.found (.string (before ++ text ++ after)))).outcome = .error other ∧
          (∀ target quoted reason, failure = .unreadable target quoted reason →
            quoted = text ∧ other = .unreadable target (before ++ text ++ after) reason) ∧
          ((∀ target quoted reason, failure ≠ .unreadable target quoted reason) →
            other = failure) := by
  have padded := outcome_read_of_trim (trim_padded blank_before blank_after text) type
  constructor
  · intro answer
    rw [padded]
    cases (type.read (.found (.string text))).outcome with
    | ok value => rw [quotingOutcome_ok]
    | error failure => simp [quotingOutcome_error]
  · intro failure fails
    have quotes := quoting_of_read fails
    rw [fails, quotingOutcome_error] at padded
    refine ⟨_, padded, ?_, ?_⟩
    · rintro target quoted reason rfl
      cases quotes
      exact ⟨rfl, rfl⟩
    · intro readable
      cases failure with
      | unreadable target quoted reason => exact absurd rfl (readable target quoted reason)
      | _ => rfl

/-- An ideographic space and a next-line character around digits that are too great. -/
theorem padded_out_of_range :
    (∀ c ∈ "\u3000\t".toList, Text.isBlank c = true) ∧
      (∀ c ∈ "\u0085".toList, Text.isBlank c = true) ∧
      ((ScalarType.integer .u8).read (.found (.string "\u3000\t300\u0085"))).outcome =
        .error (.outOfRange (.integer .u8) "300") := by
  have before : ∀ c ∈ "\u3000\t".toList, Text.isBlank c = true := List.all_eq_true.mp rfl
  have after : ∀ c ∈ "\u0085".toList, Text.isBlank c = true := List.all_eq_true.mp rfl
  have fails : ((ScalarType.integer .u8).read (.found (.string "300"))).outcome =
      .error (.outOfRange (.integer .u8) "300") := by rfl
  obtain ⟨other, padded, -, same⟩ :=
    (read_padded (.integer .u8) "300" "\u3000\t" "\u0085" before after).2 _ fails
  refine ⟨before, after, ?_⟩
  rw [same nofun] at padded
  exact padded

end Located

end DotPath
