import DotPath.Reading.Refusal

/-!
Failures in the log.  A failure on the way through a document, or to read a node as a scalar, has an
event of its own.  A log tells of a failure if it ends with that event, and if no other event is of
the class that is looked for; this is kept where computations are put behind one another.
-/

set_option autoImplicit false
set_option relaxedAutoImplicit false

namespace DotPath

/-! Events and failures -/

def Event.target? : Event → Option ScalarType
  | .notConvertible target _ | .unreadable target _ | .outOfRange target _ => some target
  | _ => none

namespace Failure

def target? : Failure → Option ScalarType
  | .notConvertible target _ | .unreadable target _ _ | .outOfRange target _ => some target
  | _ => none

/-- The event of a failure.  Paths that do not compile and nodes that do not match a shape have
none. -/
def event? : Failure → Option Event
  | .indexNotFound path index length => some (.indexNotFound path index length)
  | .notConvertible target kind => some (.notConvertible target kind)
  | .unreadable target text _ => some (.unreadable target text)
  | .outOfRange target value => some (.outOfRange target value)
  | .emptyPath | .reservedCharacter _ | .badIndex _ | .mismatched _ => none

variable {failure : Failure} {event : Event}

theorem level_and_target?_of_event? (own : failure.event? = some event) :
    event.level = .debug ∧ event.target? = failure.target? := by
  cases failure with
  | emptyPath => cases own
  | reservedCharacter piece => cases own
  | badIndex piece => cases own
  | mismatched mismatch => cases own
  | _ =>
    cases own
    exact ⟨rfl, rfl⟩

end Failure

namespace Logged

variable {α β : Type}

/-! Events of computations -/

section Events

variable {first : Logged α} {next : α → Logged β} {event : Event}

theorem mem_events_bind :
    event ∈ (first >>= next).events ↔
      event ∈ first.events ∨
        ∃ value, first.outcome = .ok value ∧ event ∈ (next value).events := by
  cases outcome : first.outcome with
  | ok value => simp [bind_of_ok outcome]
  | error failure => simp [bind_of_error outcome]

@[simp]
theorem events_map (f : α → β) (x : Logged α) : (f <$> x).events = x.events := by
  rw [map_eq_pure_bind]
  cases outcome : x.outcome with
  | ok value => simp [bind_of_ok outcome]
  | error failure => rw [bind_of_error outcome]

theorem pairwise_events_bind {R : Event → Event → Prop} (before : first.events.Pairwise R)
    (after : ∀ value, (next value).events.Pairwise R)
    (across : ∀ value, first.outcome = .ok value →
      ∀ earlier ∈ first.events, ∀ later ∈ (next value).events, R earlier later) :
    (first >>= next).events.Pairwise R := by
  cases outcome : first.outcome with
  | ok value =>
    rw [bind_of_ok outcome]
    exact List.pairwise_append.mpr ⟨before, after value, across value outcome⟩
  | error failure =>
    rw [bind_of_error outcome]
    exact before

end Events

/-! Logs that tell of failures -/

/-- The log tells of a failure by events of a class: with a value none is of the class, and with a
failure its own event is, which is the last and the only one of the class. -/
structure Tells (isTold : Event → Bool) (x : Logged α) : Prop where
  of_ok {value : α} (ok : x.outcome = .ok value) : ∀ event ∈ x.events, isTold event = false
  of_error {failure : Failure} (error : x.outcome = .error failure) :
    ∃ before event, x.events = before ++ [event] ∧ failure.event? = some event ∧
      isTold event = true ∧ ∀ other ∈ before, isTold other = false

namespace Tells

variable {isTold : Event → Bool}

theorem value {events : List Event} {value : α} (others : ∀ event ∈ events, isTold event = false) :
    (⟨events, .ok value⟩ : Logged α).Tells isTold :=
  ⟨fun _ => others, nofun⟩

theorem pure (value : α) : (Pure.pure value : Logged α).Tells isTold :=
  .value (List.forall_mem_nil _)

theorem failing {event : Event} {failure : Failure} (own : failure.event? = some event)
    (told : isTold event = true) : (⟨[event], .error failure⟩ : Logged α).Tells isTold := by
  refine ⟨nofun, fun error => ?_⟩
  cases error
  exact ⟨[], event, rfl, own, told, List.forall_mem_nil _⟩

theorem bind {first : Logged α} {next : α → Logged β} (tells : first.Tells isTold)
    (next_tells : ∀ value, (next value).Tells isTold) :
    (first >>= next).Tells isTold := by
  cases outcome : first.outcome with
  | error failure =>
    rw [bind_of_error outcome]
    refine ⟨nofun, fun error => ?_⟩
    cases error
    exact tells.of_error outcome
  | ok value =>
    have quiet := tells.of_ok outcome
    have rest := next_tells value
    rw [bind_of_ok outcome]
    constructor
    · intro result ok event member
      rcases List.mem_append.mp member with earlier | later
      · exact quiet event earlier
      · exact rest.of_ok ok event later
    · intro failure error
      obtain ⟨before, event, events, own, told, others⟩ := rest.of_error error
      refine ⟨first.events ++ before, event, ?_, own, told, fun other member => ?_⟩
      · show first.events ++ (next value).events = _
        rw [events, List.append_assoc]
      · rcases List.mem_append.mp member with earlier | later
        · exact quiet other earlier
        · exact others other later

theorem map {x : Logged α} (tells : x.Tells isTold) (f : α → β) : (f <$> x).Tells isTold := by
  rw [map_eq_pure_bind]
  exact tells.bind fun value => pure (f value)

end Tells

end Logged

end DotPath
