import DotPath.Proofs.Rendering
import DotPath.Proofs.StepWalk

/-!
Joining two paths with a point.  The joined text compiles exactly if both parts do, to the segments
of the first part and then those of the second; a walk along it is a walk along the first part and
then, from where that has ended, along the second.
-/

set_option autoImplicit false
set_option relaxedAutoImplicit false

namespace DotPath

/-! The joined text -/

theorem splitOn_append_cons (separator : Char) (first second : List Char) :
    (first ++ separator :: second).splitOn separator =
      first.splitOn separator ++ second.splitOn separator := by
  obtain ⟨head, pieces, split⟩ := List.exists_cons_of_ne_nil (List.splitOn_ne_nil separator first)
  obtain ⟨next, others, splitNext⟩ :=
    List.exists_cons_of_ne_nil (List.splitOn_ne_nil separator second)
  obtain ⟨whole, absent, each⟩ := splitOn_eq_cons_iff.mp split
  obtain ⟨wholeNext, absentNext, eachNext⟩ := splitOn_eq_cons_iff.mp splitNext
  rw [split, splitNext, List.cons_append, splitOn_eq_cons_iff]
  refine ⟨?_, absent, ?_⟩
  · rw [List.flatMap_append, List.flatMap_cons, List.cons_append, ← wholeNext, ← List.append_assoc,
      ← whole]
  · intro piece member
    rcases List.mem_append.mp member with before | behind
    · exact each piece before
    · rcases List.mem_cons.mp behind with rfl | behind
      · exact absentNext
      · exact eachNext piece behind

namespace Path

def joined (first second : String) : String :=
  first ++ "." ++ second

theorem toList_joined (first second : String) :
    (joined first second).toList = first.toList ++ '.' :: second.toList := by
  simp [joined]

theorem joined_ne_empty (first second : String) : joined first second ≠ "" := by
  intro empty
  have none := congrArg String.toList empty
  rw [toList_joined] at none
  simp at none

private theorem mapM_append_eq (first second : List (List Char)) :
    (first ++ second).mapM Segment.compile =
      (first.mapM Segment.compile).bind fun before =>
        (second.mapM Segment.compile).map (before ++ ·) := by
  rw [List.mapM_append]
  cases first.mapM Segment.compile with
  | error failure => rfl
  | ok before => cases second.mapM Segment.compile <;> rfl

theorem compile_joined {first second : String} (nonempty : first ≠ "")
    (nonemptySecond : second ≠ "") :
    compile (joined first second) =
      (compile first).bind fun path => (compile second).map fun other =>
        ⟨joined first second, path.segments ++ other.segments⟩ := by
  rw [compile_of_ne_empty (joined_ne_empty first second), toList_joined, splitOn_append_cons,
    mapM_append_eq, compile_of_ne_empty nonempty, compile_of_ne_empty nonemptySecond]
  cases (first.toList.splitOn '.').mapM Segment.compile with
  | error failure => rfl
  | ok before => cases (second.toList.splitOn '.').mapM Segment.compile <;> rfl

end Path

/-! Walks from where the first part has ended -/

private theorem follow_missing_name (source name : String) (rest : List Step) :
    Located.missing.follow source ((if name.isEmpty then [] else [.key name]) ++ rest) =
      Located.missing.follow source rest := by
  split <;> rfl

theorem follow_missing_segments (source : String) (segments : List Segment) :
    Located.missing.follow source (segments.flatMap Segment.steps) =
      ((segments.flatMap Segment.indices).head?).elim (.ok .missing)
        fun index => .error (.indexNotFound source index 0) := by
  induction segments with
  | nil => rfl
  | cons segment rest ih =>
    rw [List.flatMap_cons, List.flatMap_cons]
    cases segment with
    | field name => exact ih
    | indexed name indices =>
      rw [Segment.steps, List.append_assoc, follow_missing_name]
      cases indices with
      | nil => exact ih
      | cons index others => rfl

theorem head?_indices_eq_none_iff {source : String} {path : Path}
    (compiled : Path.compile source = .ok path) :
    (path.segments.flatMap Segment.indices).head? = none ↔
      ∀ segment ∈ path.segments, ∃ name, segment = .field name := by
  rw [List.head?_eq_none_iff, List.flatMap_eq_nil_iff]
  constructor
  · intro none segment member
    cases segment with
    | field name => exact ⟨name, rfl⟩
    | indexed name indices =>
      have some := ((wellFormed_of_compile compiled).indices name indices member).1
      exact absurd (none _ member) some
  · intro plain segment member
    obtain ⟨name, rfl⟩ := plain segment member
    rfl

namespace Path

theorem outcome_evaluate_append (source : String) (path other : Path) (root : Json) :
    (evaluate ⟨source, path.segments ++ other.segments⟩ root).outcome =
      ((path.evaluate root).outcome.mapError (Failure.forPath source)).bind
        fun here => here.follow source other.steps := by
  have longer : steps ⟨source, path.segments ++ other.segments⟩ = path.steps ++ other.steps := by
    simp only [steps, List.flatMap_append]
  exact outcome_evaluate_of_steps longer root

/-- From a missing node a walk along a compiled path ends at a missing node if all of its segments
are fields, and fails at its first position if not. -/
theorem follow_missing_of_compile {text : String} {path : Path}
    (compiled : compile text = .ok path) (source : String) :
    ((∀ segment ∈ path.segments, ∃ name, segment = .field name) →
        Located.missing.follow source path.steps = .ok .missing) ∧
      ((∃ segment ∈ path.segments, ∀ name, segment ≠ .field name) →
        ∃ index, (path.segments.flatMap Segment.indices).head? = some index ∧
          Located.missing.follow source path.steps = .error (.indexNotFound source index 0)) := by
  rw [steps, follow_missing_segments]
  constructor
  · intro plain
    rw [(head?_indices_eq_none_iff compiled).mpr plain]
    rfl
  · rintro ⟨segment, member, indexed⟩
    cases first : (path.segments.flatMap Segment.indices).head? with
    | none =>
      obtain ⟨name, plain⟩ := (head?_indices_eq_none_iff compiled).mp first segment member
      exact absurd plain (indexed name)
    | some index => exact ⟨index, rfl, rfl⟩

/-- An outcome of a walk along one path and then another, told of a source text: a failure of the
first path stays one, from a node that is found the walk goes on along the second path, and from a
missing node it goes on to a missing node, or fails at the first position of the second path if that
has any.  Every failure is told of the source text. -/
structure Continues (source : String) (path other : Path) (root : Json)
    (outcome : Except Failure Located) : Prop where
  failed : ∀ failure, (path.evaluate root).outcome = .error failure →
    outcome = .error (failure.forPath source)
  found : ∀ node, (path.evaluate root).outcome = .ok (.found node) →
    outcome = (other.evaluate node).outcome.mapError (Failure.forPath source)
  missing_fields : (path.evaluate root).outcome = .ok .missing →
    (∀ segment ∈ other.segments, ∃ name, segment = .field name) → outcome = .ok .missing
  missing_index : (path.evaluate root).outcome = .ok .missing →
    (∃ segment ∈ other.segments, ∀ name, segment ≠ .field name) →
      ∃ index, (other.segments.flatMap Segment.indices).head? = some index ∧
        outcome = .error (.indexNotFound source index 0)
  told : ∀ failure, outcome = .error failure →
    ∃ index length, failure = .indexNotFound source index length

theorem continues_evaluate {text : String} {other : Path} (compiled : compile text = .ok other)
    (source : String) (path : Path) (root : Json) :
    Continues source path other root
      (evaluate ⟨source, path.segments ++ other.segments⟩ root).outcome where
  failed failure ended := by
    rw [outcome_evaluate_append, ended]
    rfl
  found node ended := by
    rw [outcome_evaluate_append, ended, outcome_evaluate, Located.follow_forPath]
    rfl
  missing_fields ended plain := by
    rw [outcome_evaluate_append, ended]
    exact (follow_missing_of_compile compiled source).1 plain
  missing_index ended indexed := by
    rw [outcome_evaluate_append, ended]
    exact (follow_missing_of_compile compiled source).2 indexed
  told failure ended := by
    rw [outcome_evaluate] at ended
    obtain ⟨index, length, -, told⟩ := follow_eq_error_iff.mp ended
    exact ⟨index, length, told⟩

/-- Two paths with a point between them fail as the first one does, or else as the second does, and
otherwise compile to the segments of both; a walk along those goes along the first path and then
along the second. -/
theorem compile_evaluate_joined (first second : String) (nonempty : first ≠ "")
    (nonemptySecond : second ≠ "") :
    (∀ failure, compile first = .error failure →
        compile (joined first second) = .error failure) ∧
      (∀ path failure, compile first = .ok path → compile second = .error failure →
        compile (joined first second) = .error failure) ∧
      ∀ path other, compile first = .ok path → compile second = .ok other →
        ∃ whole, compile (joined first second) = .ok whole ∧
          whole.segments = path.segments ++ other.segments ∧
          ∀ root : Json,
            Continues (joined first second) path other root (whole.evaluate root).outcome := by
  rw [compile_joined nonempty nonemptySecond]
  refine ⟨?_, ?_, ?_⟩
  · intro failure fails
    rw [fails]
    rfl
  · intro path failure compiled fails
    rw [compiled, fails]
    rfl
  · intro path other compiled compiledOther
    rw [compiled, compiledOther]
    exact ⟨_, rfl, rfl, continues_evaluate compiledOther (joined first second) path⟩

theorem joined_index_of_missing :
    "a" ≠ "" ∧ "b[2]" ≠ "" ∧
      ∃ whole, compile (joined "a" "b[2]") = .ok whole ∧
        (whole.evaluate (.object [])).outcome =
          .error (.indexNotFound (joined "a" "b[2]") 2 0) := by
  have first : compile "a" = .ok ⟨"a", [.field "a"]⟩ := rfl
  have second : compile "b[2]" = .ok ⟨"b[2]", [.indexed "b" [2]]⟩ := rfl
  obtain ⟨-, -, both⟩ := compile_evaluate_joined "a" "b[2]" (by decide) (by decide)
  obtain ⟨whole, compiled, -, walks⟩ := both _ _ first second
  obtain ⟨index, place, failed⟩ :=
    (walks (.object [])).missing_index rfl ⟨_, List.mem_singleton_self _, nofun⟩
  cases place
  exact ⟨by decide, by decide, whole, compiled, failed⟩

end Path

end DotPath
