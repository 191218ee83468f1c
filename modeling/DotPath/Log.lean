import DotPath.Failure
import DotPath.Path.Basic

/-!
What happens on the way to a result, as a list of events.  `Logged` is the type of computations that
note events and give a value or fail; the events noted before a failure are kept.
-/

set_option autoImplicit false
set_option relaxedAutoImplicit false

namespace DotPath

inductive Event where
  | compiled (path : String) (segments : Nat)
  | cacheFull (path : String) (capacity : Nat)
  | step (segment : Segment) (kind : Kind)
  | fieldAbsent (field : String)
  | fieldOnScalar (field : String) (kind : Kind)
  | indexNotFound (path : String) (index length : Nat)
  | notConvertible (target : ScalarType) (kind : Kind)
  | unreadable (target : ScalarType) (text : String)
  | outOfRange (target : ScalarType) (value : String)
  /-- A node is not an epoch count, and is read as text. -/
  | noEpoch (failure : Failure)
  deriving DecidableEq

inductive Level where
  | debug
  | trace
  deriving DecidableEq

def Level.name : Level → String
  | .debug => "DEBUG"
  | .trace => "TRACE"

namespace Event

def level : Event → Level
  | .compiled .. | .step .. => .trace
  | _ => .debug

def origin : Event → String
  | .compiled .. => "json_endpointer::path"
  | .cacheFull .. => "json_endpointer::context"
  | .step .. | .fieldAbsent .. | .fieldOnScalar .. | .indexNotFound .. =>
      "json_endpointer::evaluator"
  | .notConvertible .. | .unreadable .. | .outOfRange .. | .noEpoch .. => "json_endpointer::coerce"

def words : Event → String
  | .compiled path segments =>
      "compiled path path=" ++ Text.quote path ++ " segments=" ++ Text.decimal segments
  | .cacheFull path capacity =>
      "path cache full, not caching path=" ++ Text.quote path ++ " capacity="
        ++ Text.decimal capacity
  | .step segment kind => "step segment=" ++ String.ofList segment.text ++ " kind=" ++ kind.name
  | .fieldAbsent field => "field not present, continuing with missing field=" ++ Text.quote field
  | .fieldOnScalar field kind =>
      "field lookup on non-object field=" ++ Text.quote field ++ " kind=" ++ kind.name
  | .indexNotFound path index length =>
      "array index not found path=" ++ Text.quote path ++ " index=" ++ Text.decimal index ++ " len="
        ++ Text.decimal length
  | .notConvertible target kind =>
      "format conversion failed target_type=" ++ Text.quote target.name ++ " kind=" ++ kind.name
  | .unreadable target text =>
      "parse failed target_type=" ++ Text.quote target.name ++ " text=" ++ Text.quote text
  | .outOfRange target value =>
      "value out of range target_type=" ++ Text.quote target.name ++ " value=" ++ value
  | .noEpoch failure => "no epoch integer, falling back to text error=" ++ failure.message

def line (event : Event) : String :=
  event.level.name ++ " " ++ event.origin ++ ": " ++ event.words

end Event

/-- A value or a failure, with the events on the way to it. -/
structure Logged (α : Type) where
  events : List Event
  outcome : Except Failure α

namespace Logged

variable {α β : Type}

def fail (failure : Failure) : Logged α :=
  ⟨[], .error failure⟩

def ofExcept (outcome : Except Failure α) : Logged α :=
  ⟨[], outcome⟩

def note (event : Event) : Logged Unit :=
  ⟨[event], .ok ()⟩

/-- Goes on with a value; a failure ends the computation, and all events are kept in order. -/
def andThen (first : Logged α) (next : α → Logged β) : Logged β :=
  match first.outcome with
  | .ok value => ⟨first.events ++ (next value).events, (next value).outcome⟩
  | .error failure => ⟨first.events, .error failure⟩

instance : Monad Logged where
  pure value := ⟨[], .ok value⟩
  bind := andThen

@[simp]
theorem outcome_pure (value : α) : (pure value : Logged α).outcome = .ok value :=
  rfl

@[simp]
theorem events_pure (value : α) : (pure value : Logged α).events = [] :=
  rfl

theorem outcome_bind (first : Logged α) (next : α → Logged β) :
    (first >>= next).outcome = first.outcome.bind fun value => (next value).outcome := by
  show (andThen first next).outcome = _
  unfold andThen
  cases first.outcome <;> rfl

theorem bind_of_ok {first : Logged α} {value : α} (ok : first.outcome = .ok value)
    (next : α → Logged β) :
    first >>= next = ⟨first.events ++ (next value).events, (next value).outcome⟩ := by
  show andThen first next = _
  simp [andThen, ok]

theorem bind_of_error {first : Logged α} {failure : Failure}
    (error : first.outcome = .error failure) (next : α → Logged β) :
    first >>= next = ⟨first.events, .error failure⟩ := by
  show andThen first next = _
  simp [andThen, error]

theorem outcome_bind_eq_ok_iff {first : Logged α} {next : α → Logged β} {result : β} :
    (first >>= next).outcome = .ok result ↔
      ∃ value, first.outcome = .ok value ∧ (next value).outcome = .ok result := by
  rw [outcome_bind]
  cases first.outcome with
  | ok value => simp [Except.bind]
  | error failure => simp [Except.bind]

theorem outcome_bind_eq_error_iff {first : Logged α} {next : α → Logged β} {failure : Failure} :
    (first >>= next).outcome = .error failure ↔
      first.outcome = .error failure ∨
        ∃ value, first.outcome = .ok value ∧ (next value).outcome = .error failure := by
  rw [outcome_bind]
  cases first.outcome with
  | ok value => simp [Except.bind]
  | error other => simp [Except.bind]

private theorem map_id_eq (x : Logged α) : id <$> x = x := by
  cases x with
  | mk events outcome => cases outcome <;> simp [Functor.map, andThen]

private theorem bind_bind_eq {γ : Type} (x : Logged α) (f : α → Logged β) (g : β → Logged γ) :
    x >>= f >>= g = x >>= fun value => f value >>= g := by
  cases x with
  | mk events outcome =>
    cases outcome with
    | error failure => rfl
    | ok value =>
      cases following : (f value).outcome with
      | error failure => simp [bind, andThen, following]
      | ok next => simp [bind, andThen, following]

instance : LawfulMonad Logged :=
  .mk' Logged map_id_eq (fun _ _ => by simp [bind, pure, andThen]) bind_bind_eq

@[simp]
theorem outcome_map (f : α → β) (x : Logged α) : (f <$> x).outcome = x.outcome.map f := by
  rw [map_eq_pure_bind, outcome_bind]
  cases x.outcome with
  | ok value => rfl
  | error failure => rfl

theorem outcome_map_eq_ok_iff {f : α → β} {x : Logged α} {result : β} :
    (f <$> x).outcome = .ok result ↔ ∃ value, x.outcome = .ok value ∧ f value = result := by
  rw [outcome_map]
  cases x.outcome with
  | ok value => simp [Except.map]
  | error failure => simp [Except.map]

theorem outcome_map_eq_error_iff {f : α → β} {x : Logged α} {failure : Failure} :
    (f <$> x).outcome = .error failure ↔ x.outcome = .error failure := by
  rw [outcome_map]
  cases x.outcome with
  | ok value => simp [Except.map]
  | error other => simp [Except.map]

end Logged

end DotPath
