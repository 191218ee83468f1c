import DotPath.Proofs.Joining
import DotPath.Reading.Target

/-!
The length of an array and its positions.  A position in brackets behind a path is one more step of
it, unless the path ends in a point; so the positions behind a path that lead to an item are just
those below the length of the array that the path leads to.
-/

set_option autoImplicit false
set_option relaxedAutoImplicit false

namespace DotPath

/-! One position more -/

private theorem exists_of_forall₂_concat {α β : Type} {related : α → β → Prop} {items : List α}
    {before : List β} {last : β} (each : List.Forall₂ related items (before ++ [last])) :
    ∃ front item, items = front ++ [item] ∧ List.Forall₂ related front before ∧
      related item last := by
  have front := List.forall₂_take_append _ _ _ each
  have behind := List.forall₂_drop_append _ _ _ each
  obtain ⟨item, others, here, none, ends⟩ := List.forall₂_cons_right_iff.mp behind
  obtain rfl := List.forall₂_nil_right_iff.mp none
  refine ⟨items.take before.length, item, ?_, front, here⟩
  rw [← ends, List.take_append_drop]

def Segment.withIndex (segment : Segment) (index : Nat) : Segment :=
  .indexed segment.name (segment.indices ++ [index])

theorem Segment.steps_withIndex {segment : Segment} {piece : List Char}
    (spells : segment.Spells piece) (nonempty : piece ≠ []) (index : Nat) :
    (segment.withIndex index).steps = segment.steps ++ [.index index] := by
  cases segment with
  | field name =>
    have named : name ≠ "" := by
      rintro rfl
      exact nonempty spells.1
    simp [Segment.withIndex, steps, Segment.name, Segment.indices, named]
  | indexed name indices =>
    simp [Segment.withIndex, steps, Segment.name, Segment.indices]

theorem Segment.Spells.withIndex {segment : Segment} {piece : List Char}
    (spells : segment.Spells piece) {index : Nat} (bounded : index < Path.indexBound) :
    (segment.withIndex index).Spells (piece ++ Segment.indexText index) := by
  have last := spellsIndex_indexText bounded
  cases segment with
  | field name =>
    obtain ⟨rfl, unopened⟩ := spells
    exact ⟨[indexText index], by simp [Segment.name], unopened, by simp, .cons last .nil⟩
  | indexed name indices =>
    obtain ⟨groups, rfl, unopened, -, each⟩ := spells
    refine ⟨groups ++ [indexText index], by simp [Segment.name], unopened, by simp, ?_⟩
    exact List.rel_append each (.cons last .nil)

theorem IsSegment.withIndex {segment : Segment} {piece : List Char}
    (isSegment : IsSegment segment piece) {index : Nat} (bounded : index < Path.indexBound) :
    IsSegment (segment.withIndex index) (piece ++ Segment.indexText index) := by
  refine ⟨?_, isSegment.2.withIndex bounded⟩
  rintro ⟨c, member, reserved⟩
  rcases List.mem_append.mp member with inside | behind
  · exact isSegment.1 ⟨c, inside, reserved⟩
  · exact ((spellsIndex_indexText bounded).not_reserved c behind).2 reserved

/-- What is written behind a text without a point belongs to its last piece.  That piece is not
empty unless the text ends in a point. -/
theorem exists_last_piece {text : List Char} (nonempty : text ≠ [])
    (unended : text.getLast? ≠ some '.') :
    ∃ before last, text.splitOn '.' = before ++ [last] ∧ last ≠ [] ∧
      ∀ suffix, '.' ∉ suffix → (text ++ suffix).splitOn '.' = before ++ [last ++ suffix] := by
  by_cases point : '.' ∈ text
  · -- the last point is the first one from behind
    obtain ⟨flipped, front, split, absent⟩ :=
      List.eq_append_cons_of_mem (List.mem_reverse.mpr point)
    have whole : text = front.reverse ++ '.' :: flipped.reverse := by
      rw [← List.reverse_reverse text, split]
      simp
    have pointless : '.' ∉ flipped.reverse := mt List.mem_reverse.mp absent
    refine ⟨front.reverse.splitOn '.', flipped.reverse, ?_, ?_, fun suffix none => ?_⟩
    · rw [whole, splitOn_append_cons, List.splitOn_eq_singleton pointless]
    · intro empty
      rw [whole, empty] at unended
      simp at unended
    · have absent : '.' ∉ flipped.reverse ++ suffix := by
        simp only [List.mem_append, not_or]
        exact ⟨pointless, none⟩
      rw [whole, List.append_assoc, List.cons_append, splitOn_append_cons,
        List.splitOn_eq_singleton absent]
  · refine ⟨[], text, List.splitOn_eq_singleton point, nonempty, fun suffix none => ?_⟩
    apply List.splitOn_eq_singleton
    simp only [List.mem_append, not_or]
    exact ⟨point, none⟩

namespace Path

def indexed (source : String) (index : Nat) : String :=
  source ++ "[" ++ Text.decimal index ++ "]"

theorem toList_indexed (source : String) (index : Nat) :
    (indexed source index).toList = source.toList ++ Segment.indexText index := by
  simp [indexed, Segment.indexText, Text.decimal]

theorem indexed_ne_empty (source : String) (index : Nat) : indexed source index ≠ "" := by
  intro empty
  have none := congrArg String.toList empty
  rw [toList_indexed] at none
  simp [Segment.indexText] at none

section Longer

variable {source : String} {path : Path} (compiled : compile source = .ok path)
  (unended : source.toList.getLast? ≠ some '.') {index : Nat} (bounded : index < indexBound)

include compiled unended bounded

theorem compile_indexed :
    ∃ longer, compile (indexed source index) = .ok longer ∧
      longer.source = indexed source index ∧ longer.steps = path.steps ++ [.index index] := by
  obtain ⟨nonempty, -, spelled⟩ := compile_eq_ok_iff.mp compiled
  obtain ⟨before, last, split, some, longer⟩ :=
    exists_last_piece (mt String.toList_eq_nil_iff.mp nonempty) unended
  rw [split] at spelled
  obtain ⟨front, segment, segments, each, isSegment⟩ := exists_of_forall₂_concat spelled
  have pointless : '.' ∉ Segment.indexText index := fun point =>
    ((spellsIndex_indexText bounded).not_reserved '.' point).1 rfl
  refine ⟨⟨indexed source index, front ++ [segment.withIndex index]⟩,
    compile_eq_ok_iff.mpr ⟨indexed_ne_empty source index, rfl, ?_⟩, rfl, ?_⟩
  · rw [toList_indexed, longer _ pointless]
    exact List.rel_append each (.cons (isSegment.withIndex bounded) .nil)
  · simp [steps, segments, Segment.steps_withIndex isSegment.2 some index]

end Longer

end Path

/-! Lengths -/

namespace Located

theorem follow_index_of_lt (source : String) {here : Located} {index : Nat}
    (inside : index < here.items.length) :
    here.follow source [.index index] = .ok (.found here.items[index]) := by
  simp [follow, inside]

theorem follow_index_of_le (source : String) {here : Located} {index : Nat}
    (beyond : here.items.length ≤ index) :
    here.follow source [.index index] = .error (.indexNotFound source index here.items.length) := by
  simp [follow, beyond]

theorem outcome_toArrayLength_eq_ok_iff {here : Located} {length : Nat} :
    here.toArrayLength.outcome = .ok length ↔
      ∃ items, here = .found (.array items) ∧ items.length = length := by
  cases here with
  | missing => simp [toArrayLength]
  | found node => cases node <;> simp [toArrayLength]

theorem items_eq_nil_of_toArrayLength {here : Located} {failure : Failure}
    (fails : here.toArrayLength.outcome = .error failure) : here.items = [] := by
  cases here with
  | missing => rfl
  | found node =>
    cases node with
    | array items => cases fails
    | _ => rfl

end Located

section Lengths

variable {source : String} {path : Path} (compiled : Path.compile source = .ok path) {root : Json}

include compiled

theorem evaluate_of_arrayLength {length : Nat}
    (read : (readAt root source (.scalar .arrayLength)).outcome = .ok (.arrayLength length)) :
    ∃ items, (path.evaluate root).outcome = .ok (.found (.array items)) ∧
      items.length = length := by
  unfold readAt at read
  obtain ⟨here, ended, answered⟩ := Logged.outcome_bind_eq_ok_iff.mp read
  obtain ⟨count, counted, same⟩ := Logged.outcome_map_eq_ok_iff.mp answered
  cases same
  obtain ⟨items, rfl, length⟩ := Located.outcome_toArrayLength_eq_ok_iff.mp counted
  rw [outcome_locate_of_compile compiled root] at ended
  exact ⟨items, ended, length⟩

theorem evaluate_of_no_arrayLength {target : ScalarType} {kind : Kind}
    (refused : (readAt root source (.scalar .arrayLength)).outcome =
      .error (.notConvertible target kind)) :
    ∃ here, (path.evaluate root).outcome = .ok here ∧ here.items = [] := by
  unfold readAt at refused
  rcases Logged.outcome_bind_eq_error_iff.mp refused with lost | ⟨here, ended, unanswered⟩
  · rw [outcome_locate_of_compile compiled root, Path.outcome_evaluate] at lost
    obtain ⟨index, length, -, told⟩ := follow_eq_error_iff.mp lost
    cases told
  · have uncounted := Logged.outcome_map_eq_error_iff.mp unanswered
    rw [outcome_locate_of_compile compiled root] at ended
    exact ⟨here, ended, Located.items_eq_nil_of_toArrayLength uncounted⟩

end Lengths

namespace Path

/-- The length of the array at a path tells which positions behind the path there are.  A position
compiles; it leads to its item if it is below the length, and fails with the length if not.  Where
there is no array it fails with the length zero, and where the path itself fails it fails alike. -/
theorem arrayLength_tells_positions {source : String} {path : Path}
    (compiled : compile source = .ok path) (unended : source.toList.getLast? ≠ some '.')
    {index : Nat} (bounded : index < indexBound) (root : Json) :
    ∃ longer, compile (indexed source index) = .ok longer ∧
      (∀ length, (readAt root source (.scalar .arrayLength)).outcome = .ok (.arrayLength length) →
        ∃ items, (path.evaluate root).outcome = .ok (.found (.array items)) ∧
          items.length = length ∧
          (∀ inside : index < items.length,
            (longer.evaluate root).outcome = .ok (.found items[index])) ∧
          (length ≤ index → (longer.evaluate root).outcome =
            .error (.indexNotFound (indexed source index) index length))) ∧
      (∀ target kind, (readAt root source (.scalar .arrayLength)).outcome =
          .error (.notConvertible target kind) →
        (longer.evaluate root).outcome =
          .error (.indexNotFound (indexed source index) index 0)) ∧
      ∀ failure, (path.evaluate root).outcome = .error failure →
        ∃ place length, failure = .indexNotFound path.source place length ∧
          (longer.evaluate root).outcome =
            .error (.indexNotFound (indexed source index) place length) := by
  obtain ⟨longer, compiledLonger, told, steps⟩ := compile_indexed compiled unended bounded
  have walk := outcome_evaluate_of_steps steps root
  rw [told] at walk
  refine ⟨longer, compiledLonger, ?_, ?_, ?_⟩
  · intro length read
    obtain ⟨items, ended, rfl⟩ := evaluate_of_arrayLength compiled read
    rw [ended] at walk
    refine ⟨items, ended, rfl, fun inside => ?_, fun beyond => ?_⟩
    · exact walk.trans (Located.follow_index_of_lt _ inside)
    · exact walk.trans (Located.follow_index_of_le _ beyond)
  · intro target kind refused
    obtain ⟨here, ended, none⟩ := evaluate_of_no_arrayLength compiled refused
    have length : here.items.length = 0 := List.length_eq_zero_iff.mpr none
    rw [ended] at walk
    rw [walk, ← length]
    exact Located.follow_index_of_le _ (by omega)
  · intro failure fails
    rw [fails] at walk
    rw [outcome_evaluate] at fails
    obtain ⟨place, length, -, rfl⟩ := follow_eq_error_iff.mp fails
    exact ⟨place, length, rfl, walk⟩

theorem position_past_last_item :
    compile "a[0]" = .ok ⟨"a[0]", [.indexed "a" [0]]⟩ ∧
      "a[0]".toList.getLast? ≠ some '.' ∧ 2 < indexBound ∧
        ∃ longer, compile (indexed "a[0]" 2) = .ok longer ∧
          (longer.evaluate (.object [("a", .array [.array [.null, .bool true]])])).outcome =
            .error (.indexNotFound "a[0][2]" 2 2) := by
  have compiled : compile "a[0]" = .ok ⟨"a[0]", [.indexed "a" [0]]⟩ := rfl
  have unended : "a[0]".toList.getLast? ≠ some '.' := by decide
  have bounded : 2 < indexBound := by decide
  obtain ⟨longer, compiledLonger, tells, -⟩ := arrayLength_tells_positions compiled unended bounded
    (.object [("a", .array [.array [.null, .bool true]])])
  obtain ⟨items, -, -, -, beyond⟩ := tells 2 rfl
  exact ⟨compiled, unended, bounded, longer, compiledLonger, beyond (Nat.le_refl 2)⟩

end Path

end DotPath
