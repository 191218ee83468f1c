import DotPath.Proofs.IntegerReading
import DotPath.Proofs.TimeTargets
import DotPath.Reading.Target

/-!
What the kind of a node says about reading it.  Some kinds are never a value of a type, whatever the
node holds, and each way to fail belongs to certain kinds and types; nothing that goes wrong on the
way, such as an epoch count that is no integer, comes out as the failure of another type.
-/

set_option autoImplicit false
set_option relaxedAutoImplicit false

namespace DotPath

/-- Kinds of which no node is a value of the type. -/
def Foreign : Kind → ScalarType → Prop
  | .null, _ | .object, _ | .missing, _ => True
  | .array, type => type ≠ .arrayLength
  | .boolean, type => type ≠ .bool
  | .string, type | .number, type => type = .arrayLength

namespace ScalarType

def takesAllNumbers : ScalarType → Bool
  | .bool | .float32 | .float64 => true
  | _ => false

/-- Holds of the types with a range that the value of a text can be outside of. -/
def hasRange : ScalarType → Bool
  | .integer _ | .dateTime | .zonedDateTime => true
  | _ => false

end ScalarType

/-- The failures to read a node as a type.  All of them name the type. -/
inductive Refuses (here : Located) (type : ScalarType) : Failure → Prop
  | notConvertible
      (other : Foreign here.kind type ∨ here.kind = .number ∧ type.takesAllNumbers = false) :
      Refuses here type (.notConvertible type here.kind)
  | unreadable {text : String} {reason : Unreadable} (isText : here = .found (.string text)) :
      Refuses here type (.unreadable type text reason)
  | outOfRange {value : String}
      (ranged : here.kind = .number ∧ type.takesAllNumbers = false ∨
        here.kind = .string ∧ type.hasRange = true) :
      Refuses here type (.outOfRange type value)

section Scalars

variable {here : Located} {type : ScalarType} {failure : Failure}

theorem outcome_read_of_foreign (foreign : Foreign here.kind type) :
    (type.read here).outcome = .error (.notConvertible type here.kind) := by
  cases here with
  | missing => cases type <;> rfl
  | found node =>
    cases node with
    | null => cases type <;> rfl
    | object members => cases type <;> rfl
    | bool value =>
      cases type with
      | bool => exact absurd rfl foreign
      | _ => rfl
    | array items =>
      cases type with
      | arrayLength => exact absurd rfl foreign
      | _ => rfl
    | number number =>
      cases foreign
      rfl
    | string text =>
      cases foreign
      rfl

/-! Texts -/

private theorem refuses_floatOfText {f : Binary.Format} {text : String}
    (fails : (Located.floatOfText f type text).outcome = .error failure) :
    Refuses (.found (.string text)) type failure := by
  unfold Located.floatOfText at fails
  cases read : f.readLiteral (Text.trim text.toList) with
  | ok datum =>
    rw [read] at fails
    cases fails
  | error fault =>
    rw [read] at fails
    cases fault with
    | empty =>
      cases fails
      exact .unreadable rfl
    | malformed =>
      cases fails
      exact .unreadable rfl

private theorem refuses_wideOfText {text : String} (ranged : type.hasRange = true)
    (fails : (Located.wideOfText type text).outcome = .error failure) :
    Refuses (.found (.string text)) type failure := by
  simp only [Located.wideOfText] at fails
  cases read : readWide (Text.trim text.toList) with
  | ok k =>
    rw [read] at fails
    cases fails
  | error fault =>
    rw [read] at fails
    cases fault with
    | tooGreat =>
      cases fails
      exact .outOfRange (.inr ⟨rfl, ranged⟩)
    | empty =>
      cases fails
      exact .unreadable rfl
    | badDigit =>
      cases fails
      exact .unreadable rfl

private theorem refuses_integer_text {integer : IntegerType} {text : String}
    (fails : (Located.toInteger integer (.found (.string text))).outcome = .error failure) :
    Refuses (.found (.string text)) (.integer integer) failure := by
  unfold Located.toInteger at fails
  rcases Logged.outcome_bind_eq_error_iff.mp fails with unread | ⟨k, -, beyond⟩
  · exact refuses_wideOfText rfl unread
  · split at beyond
    · cases beyond
    · cases beyond
      exact .outOfRange (.inr ⟨rfl, rfl⟩)

/-! Numbers -/

private theorem refuses_integer_number {integer : IntegerType} {number : Json.Number}
    (fails : (Located.toInteger integer (.found (.number number))).outcome = .error failure) :
    Refuses (.found (.number number)) (.integer integer) failure := by
  by_cases whole : ∃ k : Int, number.toRat = k
  · obtain ⟨k, equal⟩ := whole
    by_cases holds : integer.Holds k
    · rw [Located.outcome_toInteger_eq_ok_iff.mpr ⟨holds, .number equal⟩] at fails
      cases fails
    · rw [Located.outcome_toInteger_of_whole equal holds] at fails
      cases fails
      exact .outOfRange (.inl ⟨rfl, rfl⟩)
  · rw [Located.outcome_toInteger_of_not_whole integer (not_exists.mp whole)] at fails
    cases fails
    exact .notConvertible (.inr ⟨rfl, rfl⟩)

/-! Times -/

private theorem kind_of_epochCount {count : Int}
    (epoch : here.epochCount.outcome = .ok (some count)) :
    here.kind = .number ∨ here.kind = .string := by
  cases here with
  | missing => cases epoch
  | found node =>
    cases node with
    | number number => exact .inl rfl
    | string text => exact .inr rfl
    | _ => cases epoch

private theorem ScalarType.takesAllNumbers_of_hasRange (ranged : type.hasRange = true) :
    type.takesAllNumbers = false := by
  cases type with
  | bool => cases ranged
  | float32 => cases ranged
  | float64 => cases ranged
  | _ => rfl

private theorem refuses_of_not_text (ranged : type.hasRange = true)
    (not_text : ∀ text, here ≠ .found (.string text)) :
    Refuses here type (.notConvertible type here.kind) := by
  have other : type ≠ .bool ∧ type ≠ .arrayLength := by
    constructor
    · rintro rfl
      cases ranged
    · rintro rfl
      cases ranged
  apply Refuses.notConvertible
  cases here with
  | missing => exact .inl trivial
  | found node =>
    cases node with
    | null => exact .inl trivial
    | object members => exact .inl trivial
    | bool value => exact .inl other.1
    | array items => exact .inl other.2
    | number number => exact .inr ⟨rfl, ScalarType.takesAllNumbers_of_hasRange ranged⟩
    | string text => exact absurd rfl (not_text text)

private theorem refuses_timeOfEpoch {count : Int} (ranged : type.hasRange = true)
    (epoch : here.epochCount.outcome = .ok (some count))
    (fails : (Located.timeOfEpoch type count).outcome = .error failure) :
    Refuses here type failure := by
  have partly := ScalarType.takesAllNumbers_of_hasRange ranged
  simp only [Located.timeOfEpoch] at fails
  split at fails
  next => cases fails
  next =>
    cases fails
    apply Refuses.outOfRange
    exact (kind_of_epochCount epoch).imp (And.intro · partly) (And.intro · ranged)

/-- The failure to count an epoch is not one of the reading: a number or a text without a count is
refused on its own account. -/
private theorem refuses_toTime {α : Type} {ofEpoch : Calendar.DateTime → α}
    {ofText? : List Char → Option α} (ranged : type.hasRange = true)
    (fails : (here.toTime type ofEpoch ofText?).outcome = .error failure) :
    Refuses here type failure := by
  unfold Located.toTime at fails
  rcases Logged.outcome_bind_eq_error_iff.mp fails with uncounted | ⟨count, epoch, refused⟩
  · obtain ⟨count, epoch⟩ := here.exists_outcome_epochCount
    cases epoch.symm.trans uncounted
  · cases count with
    | some count =>
      rcases Logged.outcome_bind_eq_error_iff.mp refused with outside | ⟨time, -, none⟩
      · exact refuses_timeOfEpoch ranged epoch outside
      · cases none
    | none =>
      -- why there is no count is gone by now, and only the node itself is left to decide
      simp only at refused
      split at refused
      next text =>
        split at refused
        next => cases refused
        next =>
          cases refused
          exact .unreadable rfl
      next not_text =>
        cases refused
        exact refuses_of_not_text ranged not_text

theorem refuses_text {text : String}
    (fails : (type.read (.found (.string text))).outcome = .error failure) :
    Refuses (.found (.string text)) type failure := by
  cases type with
  | bool =>
    have refused := Logged.outcome_map_eq_error_iff.mp fails
    cases read : readTruth? text.toList with
    | some value =>
      simp only [Located.toBool, read] at refused
      cases refused
    | none =>
      simp only [Located.toBool, read] at refused
      cases refused
      exact .unreadable rfl
  | integer integer => exact refuses_integer_text (Logged.outcome_map_eq_error_iff.mp fails)
  | float32 => exact refuses_floatOfText (Logged.outcome_map_eq_error_iff.mp fails)
  | float64 => exact refuses_floatOfText (Logged.outcome_map_eq_error_iff.mp fails)
  | decimal =>
    have refused := Logged.outcome_map_eq_error_iff.mp fails
    cases read : Decimal.ofText (Text.trim text.toList) with
    | ok d =>
      simp only [Located.toDecimal, read] at refused
      cases refused
    | error fault =>
      simp only [Located.toDecimal, read] at refused
      cases refused
      exact .unreadable rfl
  | dateTime => exact refuses_toTime rfl (Logged.outcome_map_eq_error_iff.mp fails)
  | zonedDateTime => exact refuses_toTime rfl (Logged.outcome_map_eq_error_iff.mp fails)
  | arrayLength =>
    cases fails
    exact .notConvertible (.inl rfl)

theorem refuses_number {number : Json.Number}
    (fails : (type.read (.found (.number number))).outcome = .error failure) :
    Refuses (.found (.number number)) type failure := by
  cases type with
  | bool => cases fails
  | float32 => cases fails
  | float64 => cases fails
  | integer integer => exact refuses_integer_number (Logged.outcome_map_eq_error_iff.mp fails)
  | decimal =>
    have refused := Logged.outcome_map_eq_error_iff.mp fails
    cases read : Decimal.ofPlain number.plain with
    | ok d =>
      simp only [Located.toDecimal, read] at refused
      cases refused
    | error fault =>
      simp only [Located.toDecimal, read] at refused
      cases refused
      exact .outOfRange (.inl ⟨rfl, rfl⟩)
  | dateTime => exact refuses_toTime rfl (Logged.outcome_map_eq_error_iff.mp fails)
  | zonedDateTime => exact refuses_toTime rfl (Logged.outcome_map_eq_error_iff.mp fails)
  | arrayLength =>
    cases fails
    exact .notConvertible (.inl rfl)

theorem refuses_of_read (fails : (type.read here).outcome = .error failure) :
    Refuses here type failure := by
  by_cases foreign : Foreign here.kind type
  · rw [outcome_read_of_foreign foreign] at fails
    cases fails
    exact .notConvertible (.inl foreign)
  · cases here with
    | missing => exact absurd trivial foreign
    | found node =>
      cases node with
      | null => exact absurd trivial foreign
      | object members => exact absurd trivial foreign
      | string text => exact refuses_text fails
      | number number => exact refuses_number fails
      | bool value =>
        obtain rfl : type = .bool := not_not.mp foreign
        cases fails
      | array items =>
        obtain rfl : type = .arrayLength := not_not.mp foreign
        cases fails

theorem Refuses.takesAllNumbers (refuses : Refuses here type failure)
    (number : here.kind = .number) : type.takesAllNumbers = false := by
  cases refuses with
  | notConvertible other =>
    rw [number] at other
    rcases other with foreign | ⟨-, partly⟩
    · cases foreign
      rfl
    · exact partly
  | unreadable isText =>
    rw [isText] at number
    cases number
  | outOfRange ranged =>
    rcases ranged with ⟨-, partly⟩ | ⟨text, -⟩
    · exact partly
    · cases number.symm.trans text

end Scalars

/-! Structures -/

/-- Outcomes of decoding the nodes of one kind: such a node is a value or does not match, and a node
of another kind is none. -/
inductive Decodes {α : Type} (kind decodable : Kind) : Except Failure (Option α) → Prop
  | value (same : kind = decodable) (decoded : α) : Decodes kind decodable (.ok (some decoded))
  | mismatch (same : kind = decodable) (mismatch : Mismatch) :
      Decodes kind decodable (.error (.mismatched mismatch))
  | none (different : kind ≠ decodable) : Decodes kind decodable (.ok none)

namespace Decodes

variable {α : Type} {kind decodable : Kind} {outcome : Except Failure (Option α)}

theorem eq_none_iff (decodes : Decodes kind decodable outcome) :
    outcome = .ok Option.none ↔ kind ≠ decodable := by
  cases decodes with
  | value same decoded => simp [same]
  | mismatch same mismatch => simp [same]
  | none different => simp [different]

theorem exists_mismatch (decodes : Decodes kind decodable outcome) {failure : Failure}
    (fails : outcome = .error failure) :
    kind = decodable ∧ ∃ mismatch, failure = .mismatched mismatch := by
  cases decodes with
  | value same decoded => cases fails
  | none different => cases fails
  | mismatch same mismatch =>
    cases fails
    exact ⟨same, mismatch, rfl⟩

end Decodes

namespace Located

variable {α : Type}

private theorem decodes_decoded (kind : Kind) (x : Except Mismatch α) :
    Decodes kind kind
      (decoded x >>= fun value => pure (some value) : Logged (Option α)).outcome := by
  cases x with
  | ok value => exact .value rfl value
  | error mismatch => exact .mismatch rfl mismatch

theorem decodes_toObject (here : Located) (decode : Json → Except Mismatch α) :
    Decodes here.kind .object (here.toObject decode).outcome := by
  cases here with
  | missing => exact .none nofun
  | found node =>
    cases node with
    | object members => exact decodes_decoded .object _
    | _ => exact .none nofun

theorem decodes_toArray (here : Located) (decode : Json → Except Mismatch α) :
    Decodes here.kind .array (here.toArray decode).outcome := by
  cases here with
  | missing => exact .none nofun
  | found node =>
    cases node with
    | array items => exact decodes_decoded .array _
    | _ => exact .none nofun

theorem toText_eq_none_iff {here : Located} :
    here.toText = none ↔ here.kind ∈ [.null, .array, .object, .missing] := by
  cases here with
  | missing => simp [toText, kind]
  | found node => cases node <;> simp [toText, kind, Json.kind]

/-- The kind of a node decides which readings can fail, and how.  A node of a kind that is no value
of a type is refused for its kind.  Texts and structures are none for the kinds without them, and if
a structure is refused, then because an object or an array does not decode.  A scalar is refused as
unreadable only if it is a text, as out of range only if it is a number or a text for a type with a
range, and never for its structure; a text is refused for its kind only as the length of an array.
Every refusal names the type asked for.  No number is refused as a truth value or as a float. -/
theorem kind_discipline (here : Located) :
    (∀ type : ScalarType, Foreign here.kind type →
        (type.read here).outcome = .error (.notConvertible type here.kind)) ∧
      (Target.text.read here).outcome = .ok (.text here.toText) ∧
      (here.toText = none ↔ here.kind ∈ [.null, .array, .object, .missing]) ∧
      (∀ (α : Type) (decode : Json → Except Mismatch α),
        ((here.toObject decode).outcome = .ok none ↔ here.kind ≠ .object) ∧
          ((here.toArray decode).outcome = .ok none ↔ here.kind ≠ .array) ∧
          (∀ failure, (here.toObject decode).outcome = .error failure →
            here.kind = .object ∧ ∃ mismatch, failure = .mismatched mismatch) ∧
          ∀ failure, (here.toArray decode).outcome = .error failure →
            here.kind = .array ∧ ∃ mismatch, failure = .mismatched mismatch) ∧
      (∀ (type : ScalarType) (failure : Failure), (type.read here).outcome = .error failure →
        (∀ target text reason, failure = .unreadable target text reason →
            target = type ∧ here = .found (.string text)) ∧
          (∀ target value, failure = .outOfRange target value →
            target = type ∧
              (here.kind = .number ∨ here.kind = .string ∧ type.hasRange = true)) ∧
          (∀ target kind, failure = .notConvertible target kind →
            target = type ∧ kind = here.kind ∧ (kind = .string → type = .arrayLength)) ∧
          ∀ mismatch, failure ≠ .mismatched mismatch) ∧
      (here.kind = .number → ∀ type : ScalarType, type.takesAllNumbers = true →
        ∃ answer, (type.read here).outcome = .ok answer) := by
  refine ⟨fun type => outcome_read_of_foreign, rfl, toText_eq_none_iff, ?_, ?_, ?_⟩
  · intro α decode
    have objects := here.decodes_toObject decode
    have arrays := here.decodes_toArray decode
    exact ⟨objects.eq_none_iff, arrays.eq_none_iff, fun failure => objects.exists_mismatch,
      fun failure => arrays.exists_mismatch⟩
  · intro type failure fails
    have refuses := refuses_of_read fails
    refine ⟨?_, ?_, ?_, ?_⟩
    · rintro target text reason rfl
      cases refuses with
      | unreadable isText => exact ⟨rfl, isText⟩
    · rintro target value rfl
      cases refuses with
      | outOfRange ranged => exact ⟨rfl, ranged.imp And.left id⟩
    · rintro target kind rfl
      cases refuses with
      | notConvertible other =>
        refine ⟨rfl, rfl, fun text => ?_⟩
        rw [text] at other
        rcases other with foreign | number
        · exact foreign
        · cases number.1
    · rintro mismatch rfl
      cases refuses
  · intro number type takes
    cases read : (type.read here).outcome with
    | ok answer => exact ⟨answer, rfl⟩
    | error failure =>
      rw [(refuses_of_read read).takesAllNumbers number] at takes
      cases takes

end Located

end DotPath
