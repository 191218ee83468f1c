import DotPath.Proofs.Rendering
import DotPath.Proofs.StepWalk

/-!
Paths that no document tells apart.  They are exactly those with the same steps: a document that has
one road, with a mark at its end and nulls beside it, shows the mark to no other steps than those of
the road.
-/

set_option autoImplicit false
set_option relaxedAutoImplicit false

namespace DotPath

/-! Documents with one road -/

namespace Json

/-- The document with one road, along which the steps lead to `true`.  Beside the road there are
only nulls, as many as it takes to have an item at each position of it. -/
def road : List Step → Json
  | [] => .bool true
  | .key name :: rest => .object [(name, road rest)]
  | .index place :: rest => .array (List.replicate place .null ++ [road rest])

theorem child?_road (step : Step) (rest : List Step) :
    (road (step :: rest)).child? step = some (road rest) := by
  cases step with
  | key name => simp [road, child?, member?]
  | index place => simp [road, child?]

theorem eq_null_of_child?_road {step other : Step} (different : other ≠ step) {rest : List Step}
    {part : Json} (works : (road (step :: rest)).child? other = some part) : part = .null := by
  cases step with
  | key name =>
    cases other with
    | key otherName =>
      have absent : otherName ≠ name := fun same => different (congrArg Step.key same)
      simp [road, child?, member?, lookup_cons, absent] at works
    | index place => cases works
  | index place =>
    cases other with
    | key name => cases works
    | index otherPlace =>
      have elsewhere : otherPlace ≠ place := fun same => different (congrArg Step.index same)
      have member : (List.replicate place Json.null ++ [road rest])[otherPlace]? = some part :=
        works
      rcases Nat.lt_or_gt_of_ne elsewhere with before | behind
      · rw [List.getElem?_append_left (by simpa using before)] at member
        exact List.eq_of_mem_replicate (List.mem_of_getElem? member)
      · rw [List.getElem?_eq_none (by simpa using Nat.succ_le_of_lt behind)] at member
        cases member

private theorem at?_null_ne (steps : List Step) : null.at? steps ≠ some (.bool true) := by
  cases steps with
  | nil => simp [at?]
  | cons step rest => simp [at?, child?]

theorem at?_road_eq_iff {steps others : List Step} :
    (road steps).at? others = some (.bool true) ↔ others = steps := by
  induction steps generalizing others with
  | nil =>
    cases others with
    | nil => simp [road, at?]
    | cons other rest => simp [road, at?, child?]
  | cons step rest ih =>
    cases others with
    | nil => cases step <;> simp [road, at?]
    | cons other others =>
      simp only [at?, List.cons.injEq]
      by_cases same : other = step
      · simp [same, child?_road, ih]
      · cases works : (road (step :: rest)).child? other with
        | none => simp [same]
        | some part =>
          obtain rfl := eq_null_of_child?_road same works
          simp [same, at?_null_ne]

end Json

/-! Paths with the same answers -/

namespace Path

/-- Holds of paths with the same answers on every document: the same node, a missing node, or a
failure at the same position with the same length, whatever the text of the path. -/
def Equivalent (path other : Path) : Prop :=
  ∀ root : Json, (path.evaluate root).outcome.mapError (Failure.forPath other.source) =
    (other.evaluate root).outcome

theorem equivalent_iff {path other : Path} : path.Equivalent other ↔ path.steps = other.steps := by
  simp only [Equivalent, outcome_evaluate, Located.follow_forPath]
  constructor
  · intro same
    have marked : (Json.road path.steps).at? path.steps = some (.bool true) :=
      Json.at?_road_eq_iff.mpr rfl
    have reached := same (Json.road path.steps)
    rw [follow_of_at? marked, eq_comm, follow_eq_found_iff] at reached
    exact (Json.at?_road_eq_iff.mp reached).symm
  · intro same root
    rw [same]

end Path

/-! Spellings of the same steps -/

theorem spellsIndex_between_blanks {index : Nat} (bounded : index < Path.indexBound) :
    SpellsIndex index ('[' :: ' ' :: Text.digits index ++ [' ', ']']) := by
  have blank : ∀ c ∈ [' '], Text.isBlank c = true := List.forall_mem_singleton.mpr (by decide)
  exact ⟨[' '], Text.digits index, [' '], by simp, blank, blank, Text.isNumeral_digits index,
    Text.value_digits index, bounded⟩

theorem spellsIndex_behind_zero {index : Nat} (bounded : index < Path.indexBound) :
    SpellsIndex index ('[' :: '0' :: Text.digits index ++ [']']) := by
  have digits : ∀ c ∈ Text.digits index, c.isDigit = true :=
    fun c member => Text.isDigit_of_mem_digits member
  refine ⟨[], '0' :: Text.digits index, [], by simp, by simp, by simp, ?_, ?_, bounded⟩
  · simpa [Text.isNumeral] using digits
  · exact Text.value_digits index

def IsName (name : String) : Prop :=
  ∀ c ∈ name.toList, c ≠ '.' ∧ c ≠ '[' ∧ c ∉ Path.reserved

theorem spells_index {index : Nat} (bounded : index < Path.indexBound) :
    (Segment.indexed "" [index]).Spells (Segment.indexText index) :=
  ⟨[Segment.indexText index], by simp, by simp, by simp,
    .cons (spellsIndex_indexText bounded) .nil⟩

section Spellings

variable {name source : String} (isName : IsName name) (nonempty : name ≠ "")

include isName nonempty

theorem compile_positions {indices : List Nat} {groups : List (List Char)} (some : indices ≠ [])
    (spelled : List.Forall₂ SpellsIndex indices groups)
    (written : source.toList = name.toList ++ groups.flatten) :
    Path.compile source = .ok ⟨source, [.indexed name indices]⟩ := by
  have spells : (Segment.indexed name indices).Spells source.toList :=
    ⟨groups, written, fun opened => (isName '[' opened).2.1 rfl, some, spelled⟩
  refine compile_of_spells ?_ List.intercalate_singleton.symm (.cons spells .nil) ?_
  · rintro rfl
    exact nonempty (String.toList_eq_nil_iff.mp (List.append_eq_nil_iff.mp written.symm).1)
  · intro segment member c inside
    obtain rfl := List.mem_singleton.mp member
    exact ⟨(isName c inside).1, (isName c inside).2.2⟩

theorem compile_apart {first second : Nat} (bounded : first < Path.indexBound)
    (boundedSecond : second < Path.indexBound)
    (written : source.toList = ['.'].intercalate
      [name.toList, Segment.indexText first, Segment.indexText second]) :
    Path.compile source =
      .ok ⟨source, [.field name, .indexed "" [first], .indexed "" [second]]⟩ := by
  have named : (Segment.field name).Spells name.toList :=
    ⟨rfl, fun opened => (isName '[' opened).2.1 rfl⟩
  refine compile_of_spells ?_ written
    (.cons named (.cons (spells_index bounded) (.cons (spells_index boundedSecond) .nil))) ?_
  · rintro rfl
    exact nonempty (String.toList_eq_nil_iff.mp (List.append_eq_nil_iff.mp written.symm).1)
  · intro segment member c inside
    simp only [List.mem_cons, List.not_mem_nil, or_false] at member
    rcases member with rfl | rfl | rfl
    · exact ⟨(isName c inside).1, (isName c inside).2.2⟩
    · simp [Segment.name] at inside
    · simp [Segment.name] at inside

end Spellings

namespace Path

/-- Paths have the same answers on every document exactly if they have the same steps.  So it makes
no difference whether positions stand in one piece or have points between them, nor whether there
are blanks around their digits or zeros in front. -/
theorem equivalent_iff_steps_eq :
    (∀ path other : Path, path.Equivalent other ↔ path.steps = other.steps) ∧
      ∀ (name : String) (first second : Nat), name ≠ "" → IsName name → first < indexBound →
        second < indexBound →
          ∃ together apart padded : Path,
            compile (name ++ "[" ++ Text.decimal first ++ "][" ++ Text.decimal second ++ "]") =
                .ok together ∧
              compile (name ++ ".[" ++ Text.decimal first ++ "].[" ++ Text.decimal second ++ "]") =
                .ok apart ∧
              compile (name ++ "[ " ++ Text.decimal first ++ " ][0" ++ Text.decimal second ++ "]") =
                .ok padded ∧
              together.Equivalent apart ∧ together.Equivalent padded := by
  refine ⟨fun path other => equivalent_iff, ?_⟩
  intro name first second nonempty isName bounded boundedSecond
  have together := compile_positions isName nonempty (List.cons_ne_nil first [second])
    (.cons (spellsIndex_indexText bounded) (.cons (spellsIndex_indexText boundedSecond) .nil))
    (show (name ++ "[" ++ Text.decimal first ++ "][" ++ Text.decimal second ++ "]").toList = _ by
      simp [Text.decimal, Segment.indexText])
  have apart := compile_apart isName nonempty bounded boundedSecond
    (show (name ++ ".[" ++ Text.decimal first ++ "].[" ++ Text.decimal second ++ "]").toList = _ by
      simp [Text.decimal, Segment.indexText])
  have padded := compile_positions isName nonempty (List.cons_ne_nil first [second])
    (.cons (spellsIndex_between_blanks bounded)
      (.cons (spellsIndex_behind_zero boundedSecond) .nil))
    (show (name ++ "[ " ++ Text.decimal first ++ " ][0" ++ Text.decimal second ++ "]").toList = _ by
      simp [Text.decimal])
  refine ⟨_, _, _, together, apart, padded, ?_, ?_⟩
  · rw [equivalent_iff]
    simp [steps, Segment.steps, nonempty]
  · rw [equivalent_iff]
    rfl

end Path

end DotPath
