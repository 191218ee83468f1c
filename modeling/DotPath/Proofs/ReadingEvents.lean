import DotPath.Proofs.FailureEvents
import DotPath.Proofs.KindDiscipline

/-!
The log of a reading.  If a node is refused as a scalar, the event of the refusal is the last of the
log and the only one that names the type; an epoch count that a node does not have is told of
before, under a type of its own.  A node that does not match a shape leaves no event at all.
-/

set_option autoImplicit false
set_option relaxedAutoImplicit false

namespace DotPath

def Event.isOf (type : ScalarType) (event : Event) : Bool :=
  event.target? == some type

/-! Direct readings -/

/-- Readings as a type that leave no event of a value, and of a refusal its own event alone. -/
inductive Logged.Direct {α : Type} (type : ScalarType) : Logged α → Prop
  | value (value : α) : Direct type ⟨[], .ok value⟩
  | refusal {failure : Failure} {event : Event} (own : failure.event? = some event)
      (names : event.target? = some type) : Direct type ⟨[event], .error failure⟩

namespace Logged.Direct

variable {α β : Type} {type : ScalarType}

theorem notConvertible (kind : Kind) : (Logged.notConvertible type kind : Logged α).Direct type :=
  .refusal rfl rfl

theorem unreadable (text : String) (reason : Unreadable) :
    (Logged.unreadable type text reason : Logged α).Direct type :=
  .refusal rfl rfl

theorem outOfRange (value : List Char) : (Logged.outOfRange type value : Logged α).Direct type :=
  .refusal rfl rfl

theorem bind {first : Logged α} {next : α → Logged β} (direct : first.Direct type)
    (next_direct : ∀ value, (next value).Direct type) : (first >>= next).Direct type := by
  cases direct with
  | value value =>
    have following := next_direct value
    rw [bind_of_ok rfl, List.nil_append]
    exact following
  | refusal own names =>
    rw [bind_of_error rfl]
    exact .refusal own names

theorem target?_of_mem {x : Logged α} {event : Event} (direct : x.Direct type)
    (member : event ∈ x.events) : event.target? = some type := by
  cases direct with
  | value value => exact absurd member List.not_mem_nil
  | refusal own names => exact List.mem_singleton.mp member ▸ names

theorem tells {x : Logged α} (direct : x.Direct type) : x.Tells (Event.isOf type) := by
  cases direct with
  | value value => exact .pure value
  | refusal own names => exact .failing own (beq_iff_eq.mpr names)

end Logged.Direct

namespace Located

open Logged (Direct Tells)

/-! Scalars -/

theorem direct_toBool (here : Located) : here.toBool.Direct .bool := by
  unfold toBool
  split
  next text =>
    split
    next => exact .value _
    next => exact .unreadable text _
  next => exact .value _
  next => exact .value _
  next => exact .notConvertible _

theorem direct_toArrayLength (here : Located) :
    here.toArrayLength.Direct .arrayLength := by
  unfold toArrayLength
  split
  next => exact .value _
  next => exact .notConvertible _

theorem direct_wideOfText (type : ScalarType) (text : String) :
    (wideOfText type text).Direct type := by
  simp only [wideOfText]
  split
  next => exact .value _
  next => exact .outOfRange _
  next => exact .unreadable text _
  next => exact .unreadable text _

theorem direct_wideOfNumber (type : ScalarType) (number : Json.Number) :
    (wideOfNumber type number).Direct type := by
  unfold wideOfNumber
  split
  next => exact .value _
  next =>
    split
    next => exact .notConvertible _
    next =>
      split
      next => exact .value _
      next => exact .outOfRange _

theorem direct_toWide (type : ScalarType) (here : Located) :
    (here.toWide type).Direct type := by
  unfold toWide
  split
  next text => exact direct_wideOfText type text
  next number => exact direct_wideOfNumber type number
  next => exact .notConvertible _

theorem direct_toInteger (type : IntegerType) (here : Located) :
    (here.toInteger type).Direct (.integer type) := by
  refine (direct_toWide (.integer type) here).bind fun k => ?_
  split
  next => exact .value k
  next => exact .outOfRange _

theorem direct_floatOfText (f : Binary.Format) (type : ScalarType) (text : String) :
    (floatOfText f type text).Direct type := by
  unfold floatOfText
  split
  next => exact .value _
  next => exact .unreadable text _
  next => exact .unreadable text _

theorem direct_toBinary64 (here : Located) : here.toBinary64.Direct .float64 := by
  unfold toBinary64
  split
  next text => exact direct_floatOfText _ _ text
  next => exact .value _
  next => exact .notConvertible _

theorem direct_toBinary32 (here : Located) : here.toBinary32.Direct .float32 := by
  unfold toBinary32
  split
  next text => exact direct_floatOfText _ _ text
  next => exact .value _
  next => exact .notConvertible _

theorem direct_toDecimal (here : Located) : here.toDecimal.Direct .decimal := by
  unfold toDecimal
  split
  next text =>
    split
    next => exact .value _
    next => exact .unreadable text _
  next =>
    split
    next => exact .value _
    next => exact .outOfRange _
  next => exact .notConvertible _

/-! Times -/

/-- An epoch count is a nonzero integer, and whatever is told of it is not told of a time. -/
theorem tells_epochCount {type : ScalarType} (other : type ≠ .integer .i64) (here : Located) :
    here.epochCount.Tells (Event.isOf type) := by
  have counted (event : Event) (member : event ∈ (here.toInteger .i64).events) :
      event.isOf type = false := by
    rw [Event.isOf, (direct_toInteger .i64 here).target?_of_mem member]
    simpa using other.symm
  simp only [epochCount]
  split
  next => exact .value counted
  next =>
    refine .value fun event member => ?_
    rcases List.mem_append.mp member with counting | none
    · exact counted event counting
    · exact List.mem_singleton.mp none ▸ rfl

theorem direct_timeOfEpoch (type : ScalarType) (count : Int) :
    (timeOfEpoch type count).Direct type := by
  simp only [timeOfEpoch]
  split
  next => exact .value _
  next => exact .outOfRange _

theorem tells_toTime {α : Type} {type : ScalarType} (other : type ≠ .integer .i64)
    (ofEpoch : Calendar.DateTime → α) (ofText? : List Char → Option α) (here : Located) :
    (here.toTime type ofEpoch ofText?).Tells (Event.isOf type) := by
  refine (tells_epochCount other here).bind fun count => Direct.tells ?_
  split
  next count => exact (direct_timeOfEpoch type count).bind fun time => .value (ofEpoch time)
  next =>
    split
    next text =>
      split
      next => exact .value _
      next => exact .unreadable text _
    next => exact .notConvertible _

theorem tells_toDateTime (here : Located) : here.toDateTime.Tells (Event.isOf .dateTime) :=
  tells_toTime (by decide) _ _ here

theorem tells_toZonedDateTime (here : Located) :
    here.toZonedDateTime.Tells (Event.isOf .zonedDateTime) :=
  tells_toTime (by decide) _ _ here

end Located

/-! All readings -/

theorem ScalarType.tells_read (type : ScalarType) (here : Located) :
    (type.read here).Tells (Event.isOf type) := by
  cases type with
  | bool => exact here.direct_toBool.tells.map Answer.bool
  | integer type => exact (here.direct_toInteger type).tells.map Answer.integer
  | float32 => exact here.direct_toBinary32.tells.map Answer.float32
  | float64 => exact here.direct_toBinary64.tells.map Answer.float64
  | decimal => exact here.direct_toDecimal.tells.map Answer.decimal
  | dateTime => exact here.tells_toDateTime.map Answer.dateTime
  | zonedDateTime => exact here.tells_toZonedDateTime.map Answer.zonedDateTime
  | arrayLength => exact here.direct_toArrayLength.tells.map Answer.arrayLength

/-- A failure to read a node as a scalar is told of last, by the only event of the type. -/
theorem ScalarType.events_of_read_error {type : ScalarType} {here : Located} {failure : Failure}
    (error : (type.read here).outcome = .error failure) :
    failure.target? = some type ∧
      ∃ before event, (type.read here).events = before ++ [event] ∧
        failure.event? = some event ∧ event.level = .debug ∧ event.target? = some type ∧
        ∀ other ∈ before, other.target? ≠ some type := by
  obtain ⟨before, event, events, own, isOf, others⟩ := (type.tells_read here).of_error error
  obtain ⟨level, same⟩ := Failure.level_and_target?_of_event? own
  have names : event.target? = some type := beq_iff_eq.mp isOf
  refine ⟨same.symm.trans names, before, event, events, own, level, names, fun other member => ?_⟩
  exact beq_eq_false_iff_ne.mp (others other member)

namespace Located

variable {α : Type}

theorem events_decoded (x : Except Mismatch α) : (decoded x).events = [] := by
  cases x with
  | ok value => rfl
  | error mismatch => rfl

theorem events_toObject (decode : Json → Except Mismatch α) (here : Located) :
    (here.toObject decode).events = [] := by
  unfold toObject
  split
  next members =>
    rw [← map_eq_pure_bind, Logged.events_map, events_decoded]
  next => rfl

theorem events_toArray (decode : Json → Except Mismatch α) (here : Located) :
    (here.toArray decode).events = [] := by
  unfold toArray
  split
  next items =>
    rw [← map_eq_pure_bind, Logged.events_map, events_decoded]
  next => rfl

end Located

theorem Target.exists_debug_event_iff {target : Target} {here : Located} {failure : Failure}
    (error : (target.read here).outcome = .error failure) :
    (∃ event ∈ (target.read here).events, event.level = .debug) ↔
      ∀ mismatch, failure ≠ .mismatched mismatch := by
  cases target with
  | node => cases error
  | text => cases error
  | scalar type =>
    obtain ⟨names, before, event, events, -, level, -⟩ := ScalarType.events_of_read_error error
    refine iff_of_true ⟨event, ?_, level⟩ ?_
    · show event ∈ (type.read here).events
      simp [events]
    · rintro mismatch rfl
      cases names
  | object shape =>
    have objects := here.decodes_toObject shape.decode
    obtain ⟨-, mismatch, same⟩ :=
      objects.exists_mismatch (Logged.outcome_map_eq_error_iff.mp error)
    have silent : ((Target.object shape).read here).events = [] :=
      (Logged.events_map _ _).trans (here.events_toObject shape.decode)
    exact iff_of_false (by simp [silent]) fun other => other mismatch same
  | array shape =>
    have arrays := here.decodes_toArray shape.decode
    obtain ⟨-, mismatch, same⟩ :=
      arrays.exists_mismatch (Logged.outcome_map_eq_error_iff.mp error)
    have silent : ((Target.array shape).read here).events = [] :=
      (Logged.events_map _ _).trans (here.events_toArray shape.decode)
    exact iff_of_false (by simp [silent]) fun other => other mismatch same

namespace Located

/-- What the log says of a failed reading.  A node that is refused as a scalar leaves the event of
its refusal, of level debug and with the type that the failure names, as the last event and the only
one of that type.  An object or an array leaves no event, whatever decodes it, and fails by a
mismatch only.  So a failure leaves an event of level debug exactly if it is no mismatch. -/
theorem failed_reading_log (here : Located) :
    (∀ (type : ScalarType) (failure : Failure), (type.read here).outcome = .error failure →
        failure.target? = some type ∧
          ∃ before event, (type.read here).events = before ++ [event] ∧
            failure.event? = some event ∧ event.level = .debug ∧ event.target? = some type ∧
            ∀ other ∈ before, other.target? ≠ some type) ∧
      (∀ (α : Type) (decode : Json → Except Mismatch α),
        (here.toObject decode).events = [] ∧ (here.toArray decode).events = [] ∧
          (∀ failure, (here.toObject decode).outcome = .error failure →
            ∃ mismatch, failure = .mismatched mismatch) ∧
          ∀ failure, (here.toArray decode).outcome = .error failure →
            ∃ mismatch, failure = .mismatched mismatch) ∧
      ∀ (target : Target) (failure : Failure), (target.read here).outcome = .error failure →
        ((∃ event ∈ (target.read here).events, event.level = .debug) ↔
          ∀ mismatch, failure ≠ .mismatched mismatch) := by
  refine ⟨fun type failure => ScalarType.events_of_read_error, fun α decode => ?_,
    fun target failure => Target.exists_debug_event_iff⟩
  refine ⟨here.events_toObject decode, here.events_toArray decode, fun failure error => ?_,
    fun failure error => ?_⟩
  · exact ((here.decodes_toObject decode).exists_mismatch error).2
  · exact ((here.decodes_toArray decode).exists_mismatch error).2

/-- An object with a text where a small integer is asked for does not decode, and neither does an
array of texts; nothing is told of either. -/
theorem silent_mismatch :
    let shape : Shape := .record "WrongShape" [("name", .integer .u8, .required)]
    let object : Located := .found (.object [("name", .string "x")])
    let array : Located := .found (.array [.string "x"])
    let mismatch : Mismatch := .wrongType (.string "x") "u8"
    (object.toObject shape.decode).outcome = .error (.mismatched mismatch) ∧
      (array.toArray (Shape.integer .u8).decode).outcome = .error (.mismatched mismatch) ∧
      (∀ event ∈ (object.toObject shape.decode).events, event.level ≠ .debug) ∧
      ∀ event ∈ (array.toArray (Shape.integer .u8).decode).events, event.level ≠ .debug := by
  refine ⟨rfl, rfl, ?_, ?_⟩
  · simp [events_toObject]
  · simp [events_toArray]

end Located

end DotPath
