import DotPath.Address
import DotPath.Walk
import Mathlib.Data.List.Induction

/-!
Walks along segments as walks along single steps.  How steps are grouped in segments makes no
difference to where a walk ends, and a walk along steps ends in one of three ways: at the node that
the steps lead to, at a missing node behind members that are not there, or with a failure at the
first position that cannot be reached.
-/

set_option autoImplicit false
set_option relaxedAutoImplicit false

namespace DotPath

/-! Walks along steps -/

/-- A failure of a walk as it is told of another path.  The text of the path is all that changes. -/
def Failure.forPath (source : String) : Failure → Failure
  | .indexNotFound _ index length => .indexNotFound source index length
  | other => other

namespace Located

def member (here : Located) (name : String) : Located :=
  match here.node?.bind fun node => node.child? (.key name) with
  | some node => .found node
  | none => .missing

def follow (source : String) : Located → List Step → Except Failure Located
  | here, [] => .ok here
  | here, .key name :: rest => follow source (here.member name) rest
  | here, .index index :: rest =>
      match here.items[index]? with
      | some node => follow source (.found node) rest
      | none => .error (.indexNotFound source index here.items.length)

theorem follow_append (source : String) (here : Located) (first second : List Step) :
    here.follow source (first ++ second) =
      (here.follow source first).bind fun next => next.follow source second := by
  induction first generalizing here with
  | nil => rfl
  | cons step rest ih =>
    cases step with
    | key name =>
      simp only [List.cons_append, follow]
      exact ih (here.member name)
    | index index =>
      simp only [List.cons_append, follow]
      cases here.items[index]? with
      | some node => exact ih (.found node)
      | none => rfl

theorem follow_forPath (source other : String) (here : Located) (steps : List Step) :
    (here.follow source steps).mapError (Failure.forPath other) = here.follow other steps := by
  induction steps generalizing here with
  | nil => rfl
  | cons step rest ih =>
    cases step with
    | key name => exact ih (here.member name)
    | index index =>
      simp only [follow]
      cases here.items[index]? with
      | some node => exact ih (.found node)
      | none => rfl

private theorem member_found_object (members : List (String × Json)) (name : String) :
    (found (.object members)).member name =
      match Json.member? name members with
      | some node => .found node
      | none => .missing :=
  rfl

theorem outcome_field (here : Located) (name : String) :
    (here.field name).outcome = .ok (here.member name) := by
  cases here with
  | missing => rfl
  | found node =>
    cases node with
    | object members =>
      rw [member_found_object]
      simp only [field]
      cases Json.member? name members <;> rfl
    | _ => rfl

theorem outcome_elements (source : String) (here : Located) (indices : List Nat) :
    (elements source here indices).outcome = here.follow source (indices.map .index) := by
  induction indices generalizing here with
  | nil => rfl
  | cons index rest ih =>
    simp only [elements, List.map_cons, follow, Logged.outcome_bind]
    unfold element
    cases here.items[index]? with
    | some node => exact ih (.found node)
    | none => rfl

end Located

theorem Segment.outcome_walk (source : String) (here : Located) (segment : Segment) :
    (segment.walk source here).outcome = here.follow source segment.steps := by
  cases segment with
  | field name => exact Located.outcome_field here name
  | indexed name indices =>
    simp only [Segment.walk, Segment.steps]
    rw [Located.follow_append]
    split
    · exact Located.outcome_elements source here indices
    · rw [Logged.outcome_bind, Located.outcome_field]
      exact Located.outcome_elements source (here.member name) indices

theorem outcome_walkSegments (source : String) (segments : List Segment) (here : Located) :
    (walkSegments source segments here).outcome =
      here.follow source (segments.flatMap Segment.steps) := by
  induction segments generalizing here with
  | nil => rfl
  | cons segment rest ih =>
    rw [List.flatMap_cons, Located.follow_append, ← Segment.outcome_walk]
    simp only [walkSegments, Logged.outcome_bind, ih]
    rfl

theorem Path.outcome_evaluate (path : Path) (root : Json) :
    (path.evaluate root).outcome = (Located.found root).follow path.source path.steps :=
  outcome_walkSegments path.source path.segments (.found root)

theorem Path.outcome_evaluate_of_steps {path other : Path} {rest : List Step}
    (longer : other.steps = path.steps ++ rest) (root : Json) :
    (other.evaluate root).outcome =
      ((path.evaluate root).outcome.mapError (Failure.forPath other.source)).bind
        fun here => here.follow other.source rest := by
  rw [outcome_evaluate, outcome_evaluate, Located.follow_forPath, longer, Located.follow_append]

theorem Path.outcome_compileLogged (source : String) :
    (compileLogged source).outcome = compile source := by
  unfold compileLogged
  rw [Logged.outcome_bind]
  cases compile source with
  | error failure => rfl
  | ok path =>
    simp only [Logged.ofExcept, Except.bind, Logged.outcome_bind]
    rfl

theorem outcome_locate (root : Json) (source : String) :
    (locate root source).outcome =
      (Path.compile source).bind fun path => (path.evaluate root).outcome := by
  unfold locate
  rw [Logged.outcome_bind, Path.outcome_compileLogged]

theorem outcome_locate_of_compile {source : String} {path : Path}
    (compiled : Path.compile source = .ok path) (root : Json) :
    (locate root source).outcome = (path.evaluate root).outcome := by
  rw [outcome_locate, compiled]
  rfl

/-! Where steps lead -/

/-- Steps that lose their way in a document for want of a member: all work up to the first one that
does not, which is to a member, and no position is behind it. -/
inductive Misses (root : Json) : List Step → Prop
  | intro {before : List Step} {name : String} {after : List Step} {node : Json}
      (reached : root.at? before = some node) (absent : node.child? (.key name) = none)
      (members : ∀ step ∈ after, ∃ other, step = .key other) :
      Misses root (before ++ .key name :: after)

/-- Steps that fail in a document at a position, where the array has the given length: the position
is the first that is too great for the array reached, is looked for in a node that is no array, or
is behind a member that is not there. -/
inductive Fails (root : Json) : List Step → Nat → Nat → Prop
  | short {before : List Step} {index : Nat} {after : List Step} {items : List Json}
      (reached : root.at? before = some (.array items)) (beyond : items.length ≤ index) :
      Fails root (before ++ .index index :: after) index items.length
  | notArray {before : List Step} {index : Nat} {after : List Step} {node : Json}
      (reached : root.at? before = some node) (other : ∀ items, node ≠ .array items) :
      Fails root (before ++ .index index :: after) index 0
  | missing {before : List Step} {index : Nat} {after : List Step}
      (misses : Misses root before) : Fails root (before ++ .index index :: after) index 0

theorem Fails.length_le {root : Json} {steps : List Step} {index length : Nat}
    (fails : Fails root steps index length) : length ≤ index := by
  cases fails with
  | short reached beyond => exact beyond
  | notArray => exact Nat.zero_le index
  | missing => exact Nat.zero_le index

section Outcomes

variable {source : String} {root : Json} {steps : List Step}

private theorem items_eq_nil {node : Json} (other : ∀ items, node ≠ .array items) :
    (Located.found node).items = [] := by
  cases node with
  | array items => exact absurd rfl (other items)
  | _ => rfl

private theorem follow_child {node part : Json} {step : Step}
    (works : node.child? step = some part) (rest : List Step) :
    (Located.found node).follow source (step :: rest) =
      (Located.found part).follow source rest := by
  cases step with
  | key name => simp [Located.follow, Located.member, Located.node?, works]
  | index index =>
    cases node with
    | array items =>
      have inside : items[index]? = some part := works
      simp [Located.follow, Located.items, inside]
    | _ => cases works

theorem follow_of_at? {node : Json} (reached : root.at? steps = some node) :
    (Located.found root).follow source steps = .ok (.found node) := by
  induction steps generalizing root with
  | nil =>
    cases reached
    rfl
  | cons step rest ih =>
    obtain ⟨part, works, reached⟩ := Option.bind_eq_some_iff.mp reached
    rw [follow_child works]
    exact ih reached

private theorem follow_missing (members : ∀ step ∈ steps, ∃ name, step = .key name) :
    Located.missing.follow source steps = .ok .missing := by
  induction steps with
  | nil => rfl
  | cons step rest ih =>
    obtain ⟨name, rfl⟩ := members step List.mem_cons_self
    exact ih fun other inside => members other (List.mem_cons_of_mem (.key name) inside)

theorem follow_of_misses (misses : Misses root steps) :
    (Located.found root).follow source steps = .ok .missing := by
  obtain ⟨reached, absent, members⟩ := misses
  rw [Located.follow_append, follow_of_at? reached]
  simp only [Except.bind, Located.follow, Located.member, Located.node?, Option.bind_some, absent]
  exact follow_missing members

theorem follow_of_fails {index length : Nat} (fails : Fails root steps index length) :
    (Located.found root).follow source steps = .error (.indexNotFound source index length) := by
  cases fails with
  | short reached beyond =>
    rw [Located.follow_append, follow_of_at? reached]
    simp [Except.bind, Located.follow, Located.items, beyond]
  | notArray reached other =>
    rw [Located.follow_append, follow_of_at? reached]
    simp [Except.bind, Located.follow, items_eq_nil other]
  | missing misses =>
    rw [Located.follow_append, follow_of_misses misses]
    simp [Except.bind, Located.follow, Located.items]

theorem reaches_or_misses_or_fails (root : Json) (steps : List Step) :
    (∃ node, root.at? steps = some node) ∨ Misses root steps ∨
      ∃ index length, Fails root steps index length := by
  -- From behind, as what decides about the last step is how the steps before it end.
  induction steps using List.reverseRecOn with
  | nil => exact .inl ⟨root, rfl⟩
  | append_singleton before step ih =>
    rcases ih with ⟨node, reached⟩ | misses | ⟨index, length, fails⟩
    · cases works : node.child? step with
      | some part =>
        refine .inl ⟨part, ?_⟩
        rw [Json.at?_append, reached]
        simp [Json.at?, works]
      | none =>
        cases step with
        | key name => exact .inr (.inl (.intro reached works (by simp)))
        | index index =>
          by_cases array : ∃ items, node = .array items
          · obtain ⟨items, rfl⟩ := array
            have beyond : items.length ≤ index := List.getElem?_eq_none_iff.mp works
            exact .inr (.inr ⟨index, items.length, .short reached beyond⟩)
          · exact .inr (.inr ⟨index, 0, .notArray reached (not_exists.mp array)⟩)
    · cases step with
      | key name =>
        obtain @⟨first, missed, after, node, reached, absent, members⟩ := misses
        refine .inr (.inl ?_)
        rw [List.append_assoc, List.cons_append]
        refine .intro reached absent fun other inside => ?_
        rcases List.mem_append.mp inside with inside | last
        · exact members other inside
        · exact ⟨name, List.mem_singleton.mp last⟩
      | index index => exact .inr (.inr ⟨index, 0, .missing misses⟩)
    · refine .inr (.inr ⟨index, length, ?_⟩)
      cases fails with
      | short reached beyond =>
        rw [List.append_assoc]
        exact .short reached beyond
      | notArray reached other =>
        rw [List.append_assoc]
        exact .notArray reached other
      | missing misses =>
        rw [List.append_assoc]
        exact .missing misses

/-- How a walk along steps ends on behalf of a path: where the steps lead, or with a failure. -/
inductive Ends (source : String) (root : Json) (steps : List Step) : Except Failure Located → Prop
  | found {node : Json} (reached : root.at? steps = some node) :
      Ends source root steps (.ok (.found node))
  | missing (misses : Misses root steps) : Ends source root steps (.ok .missing)
  | failed {index length : Nat} (fails : Fails root steps index length) :
      Ends source root steps (.error (.indexNotFound source index length))

private theorem follow_of_ends {outcome : Except Failure Located}
    (ends : Ends source root steps outcome) :
    (Located.found root).follow source steps = outcome := by
  cases ends with
  | found reached => exact follow_of_at? reached
  | missing misses => exact follow_of_misses misses
  | failed fails => exact follow_of_fails fails

private theorem exists_ends (source : String) (root : Json) (steps : List Step) :
    ∃ outcome, Ends source root steps outcome := by
  rcases reaches_or_misses_or_fails root steps with
    ⟨node, reached⟩ | misses | ⟨index, length, fails⟩
  · exact ⟨_, .found reached⟩
  · exact ⟨_, .missing misses⟩
  · exact ⟨_, .failed fails⟩

/-- A walk has one end, and it is the one that the document and the steps decide. -/
theorem follow_eq_iff {outcome : Except Failure Located} :
    (Located.found root).follow source steps = outcome ↔ Ends source root steps outcome := by
  constructor
  · intro ended
    obtain ⟨other, ends⟩ := exists_ends source root steps
    have same : other = outcome := (follow_of_ends ends).symm.trans ended
    rw [← same]
    exact ends
  · exact follow_of_ends

theorem follow_eq_found_iff {node : Json} :
    (Located.found root).follow source steps = .ok (.found node) ↔ root.at? steps = some node := by
  rw [follow_eq_iff]
  constructor
  · intro ends
    cases ends with
    | found reached => exact reached
  · exact .found

theorem follow_eq_missing_iff :
    (Located.found root).follow source steps = .ok .missing ↔ Misses root steps := by
  rw [follow_eq_iff]
  constructor
  · intro ends
    cases ends with
    | missing misses => exact misses
  · exact .missing

theorem follow_eq_error_iff {failure : Failure} :
    (Located.found root).follow source steps = .error failure ↔
      ∃ index length, Fails root steps index length ∧
        failure = .indexNotFound source index length := by
  rw [follow_eq_iff]
  constructor
  · intro ends
    cases ends with
    | failed fails => exact ⟨_, _, fails, rfl⟩
  · rintro ⟨index, length, fails, rfl⟩
    exact .failed fails

end Outcomes

/-- A walk along a path finds a node exactly if the steps of the path lead to it, be it null or not;
it ends at a missing node exactly if the steps miss for want of a member; and in all other cases it
fails at the first position that cannot be reached, with the source of the path and the length of
what was reached, which is never greater than the position. -/
theorem Path.evaluate_eq_steps (path : Path) (root : Json) :
    (∀ node, (path.evaluate root).outcome = .ok (.found node) ↔
        root.at? path.steps = some node) ∧
      ((path.evaluate root).outcome = .ok .missing ↔ Misses root path.steps) ∧
      (∀ failure, (path.evaluate root).outcome = .error failure ↔
        ∃ index length, Fails root path.steps index length ∧
          failure = .indexNotFound path.source index length) ∧
      ((∀ node, root.at? path.steps ≠ some node) → ¬Misses root path.steps →
        ∃ index length, Fails root path.steps index length ∧
          (path.evaluate root).outcome = .error (.indexNotFound path.source index length)) ∧
      ∀ source index length,
        (path.evaluate root).outcome = .error (.indexNotFound source index length) →
          length ≤ index := by
  rw [path.outcome_evaluate]
  refine ⟨fun node => follow_eq_found_iff, follow_eq_missing_iff,
    fun failure => follow_eq_error_iff, ?_, ?_⟩
  · intro nowhere hits
    rcases reaches_or_misses_or_fails root path.steps with
      ⟨node, reached⟩ | misses | ⟨index, length, fails⟩
    · exact absurd reached (nowhere node)
    · exact absurd misses hits
    · exact ⟨index, length, fails, follow_of_fails fails⟩
  · intro source index length ended
    obtain ⟨_, _, fails, same⟩ := follow_eq_error_iff.mp ended
    cases same
    exact fails.length_le

end DotPath
