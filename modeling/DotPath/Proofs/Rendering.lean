import DotPath.Proofs.Spelling

/-!
Writing paths from their segments.  Compiled segments are well formed, and compiling what is written
of well-formed segments gives them back, so that paths have the same segments exactly if they are
written alike.
-/

set_option autoImplicit false
set_option relaxedAutoImplicit false

namespace DotPath

/-- Segments that can be written.  A single empty field has no text of its own, for the empty text
is no path. -/
structure WellFormed (segments : List Segment) : Prop where
  nonempty : segments ≠ []
  not_blank : segments ≠ [.field ""]
  names : ∀ segment ∈ segments, ∀ c ∈ segment.name.toList, c ≠ '.' ∧ c ≠ '[' ∧ c ∉ Path.reserved
  indices : ∀ name indices, .indexed name indices ∈ segments →
    indices ≠ [] ∧ ∀ index ∈ indices, index < Path.indexBound

/-! What compiled segments are like -/

theorem Segment.Spells.unopened {segment : Segment} {piece : List Char}
    (spells : segment.Spells piece) : '[' ∉ segment.name.toList := by
  cases segment with
  | field name => exact spells.2
  | indexed name indices =>
    obtain ⟨groups, -, unopened, -⟩ := spells
    exact unopened

theorem Segment.Spells.name_subset {segment : Segment} {piece : List Char}
    (spells : segment.Spells piece) : segment.name.toList ⊆ piece := by
  cases segment with
  | field name =>
    obtain ⟨rfl, -⟩ := spells
    exact List.Subset.refl _
  | indexed name indices =>
    obtain ⟨groups, rfl, -⟩ := spells
    exact List.subset_append_left _ _

theorem Segment.Spells.bounded {name : String} {indices : List Nat} {piece : List Char}
    (spells : (Segment.indexed name indices).Spells piece) :
    indices ≠ [] ∧ ∀ index ∈ indices, index < Path.indexBound := by
  obtain ⟨groups, -, -, nonempty, each⟩ := spells
  refine ⟨nonempty, fun index member => ?_⟩
  obtain ⟨place, inside, rfl⟩ := List.getElem_of_mem member
  obtain ⟨before, digits, after, -, -, -, -, -, bound⟩ :=
    each.get inside (each.length_eq ▸ inside)
  exact bound

private theorem exists_piece {segments : List Segment} {pieces : List (List Char)}
    (spelled : List.Forall₂ IsSegment segments pieces) {segment : Segment}
    (member : segment ∈ segments) : ∃ piece ∈ pieces, IsSegment segment piece := by
  obtain ⟨place, inside, rfl⟩ := List.getElem_of_mem member
  have there : place < pieces.length := spelled.length_eq ▸ inside
  exact ⟨pieces[place], List.getElem_mem there, spelled.get inside there⟩

theorem wellFormed_of_compile {source : String} {path : Path}
    (compiled : Path.compile source = .ok path) : WellFormed path.segments := by
  obtain ⟨nonempty, -, spelled⟩ := Path.compile_eq_ok_iff.mp compiled
  constructor
  · intro none
    have length := spelled.length_eq
    rw [none, length_splitOn] at length
    simp at length
  · intro lone
    rw [lone, List.forall₂_cons_left_iff] at spelled
    obtain ⟨piece, others, here, none, cut⟩ := spelled
    obtain rfl := List.forall₂_nil_left_iff.mp none
    -- The only piece is the name, so that the source would be empty.
    have empty : piece = [] := here.2.1
    have whole := (splitOn_eq_cons_iff.mp cut).1
    exact nonempty (by simpa [empty] using whole)
  · intro segment member c inside
    obtain ⟨piece, cut, plain, spells⟩ := exists_piece spelled member
    refine ⟨?_, ?_, fun reserved => plain ⟨c, spells.name_subset inside, reserved⟩⟩
    · rintro rfl
      exact not_mem_of_mem_splitOn cut (spells.name_subset inside)
    · rintro rfl
      exact spells.unopened inside
  · intro name indices member
    obtain ⟨piece, -, -, spells⟩ := exists_piece spelled member
    exact spells.bounded

/-! What is written of well-formed segments -/

theorem spellsIndex_indexText {index : Nat} (bounded : index < Path.indexBound) :
    SpellsIndex index (Segment.indexText index) :=
  ⟨[], Text.digits index, [], by simp [Segment.indexText], by simp, by simp,
    Text.isNumeral_digits index, Text.value_digits index, bounded⟩

theorem Segment.spells_text {segment : Segment} (unopened : '[' ∉ segment.name.toList)
    (bounded : ∀ name indices, segment = .indexed name indices →
      indices ≠ [] ∧ ∀ index ∈ indices, index < Path.indexBound) :
    segment.Spells segment.text := by
  cases segment with
  | field name => exact ⟨rfl, unopened⟩
  | indexed name indices =>
    obtain ⟨nonempty, bounded⟩ := bounded name indices rfl
    refine ⟨indices.map Segment.indexText, ?_, unopened, nonempty, ?_⟩
    · rw [Segment.text, List.flatMap_def]
    · rw [List.forall₂_map_right_iff, List.forall₂_same]
      exact fun index member => spellsIndex_indexText (bounded index member)

theorem compile_of_spells {source : String} {segments : List Segment} {pieces : List (List Char)}
    (nonempty : source ≠ "") (written : source.toList = ['.'].intercalate pieces)
    (spelled : List.Forall₂ Segment.Spells segments pieces)
    (names : ∀ segment ∈ segments, ∀ c ∈ segment.name.toList, c ≠ '.' ∧ c ∉ Path.reserved) :
    Path.compile source = .ok ⟨source, segments⟩ := by
  have each : List.Forall₂ IsSegment segments pieces := by
    rw [List.forall₂_iff_get] at spelled ⊢
    refine ⟨spelled.1, fun place inside insidePieces => ?_⟩
    exact (spelled.2 place inside insidePieces).isSegment (names _ (List.getElem_mem inside))
  have pointless : ∀ piece ∈ pieces, '.' ∉ piece := by
    intro piece member point
    obtain ⟨place, insidePieces, rfl⟩ := List.getElem_of_mem member
    have inside : place < segments.length := spelled.length_eq ▸ insidePieces
    have plain := (spelled.get inside insidePieces).not_reserved
      (names _ (List.getElem_mem inside))
    exact (plain '.' point).1 rfl
  have some : pieces ≠ [] := by
    rintro rfl
    exact nonempty (String.toList_eq_nil_iff.mp written)
  rw [Path.compile_eq_ok_iff, written, List.splitOn_intercalate '.' pointless some]
  exact ⟨nonempty, rfl, each⟩

namespace WellFormed

variable {segments : List Segment} {segment : Segment}

theorem spells_text (wellFormed : WellFormed segments) (member : segment ∈ segments) :
    segment.Spells segment.text := by
  apply Segment.spells_text
  · intro opened
    exact (wellFormed.names segment member '[' opened).2.1 rfl
  · rintro name indices rfl
    exact wellFormed.indices name indices member

theorem name_not_reserved (wellFormed : WellFormed segments) (member : segment ∈ segments) :
    ∀ c ∈ segment.name.toList, c ≠ '.' ∧ c ∉ Path.reserved := by
  intro c inside
  obtain ⟨point, -, reserved⟩ := wellFormed.names segment member c inside
  exact ⟨point, reserved⟩

theorem splitOn_segmentsText (wellFormed : WellFormed segments) :
    (Path.segmentsText segments).splitOn '.' = segments.map Segment.text := by
  apply List.splitOn_intercalate
  · intro text written point
    obtain ⟨segment, member, rfl⟩ := List.mem_map.mp written
    have plain := (wellFormed.spells_text member).not_reserved (wellFormed.name_not_reserved member)
    exact (plain '.' point).1 rfl
  · simpa using wellFormed.nonempty

theorem segmentsText_ne_nil (wellFormed : WellFormed segments) :
    Path.segmentsText segments ≠ [] := by
  intro none
  -- The empty text has one piece, so that there is one segment, and it writes nothing.
  have split := wellFormed.splitOn_segmentsText
  rw [none, List.splitOn_nil, eq_comm, List.map_eq_singleton_iff] at split
  obtain ⟨segment, rfl, empty⟩ := split
  cases segment with
  | field name =>
    obtain rfl : name = "" := String.toList_inj.mp empty
    exact wellFormed.not_blank rfl
  | indexed name indices =>
    obtain ⟨some, -⟩ := wellFormed.indices name indices List.mem_cons_self
    obtain ⟨index, others, rfl⟩ := List.exists_cons_of_ne_nil some
    simp [Segment.text, Segment.indexText] at empty

theorem compile_segmentsText (wellFormed : WellFormed segments) :
    Path.compile (String.ofList (Path.segmentsText segments)) =
      .ok ⟨String.ofList (Path.segmentsText segments), segments⟩ := by
  refine compile_of_spells ?_ String.toList_ofList ?_ fun segment => wellFormed.name_not_reserved
  · intro empty
    apply wellFormed.segmentsText_ne_nil
    simpa using congrArg String.toList empty
  · rw [List.forall₂_map_right_iff, List.forall₂_same]
    exact fun segment member => wellFormed.spells_text member

end WellFormed

namespace Path

private theorem compile_display {source : String} {path : Path}
    (compiled : compile source = .ok path) :
    compile path.display = .ok ⟨path.display, path.segments⟩ :=
  (wellFormed_of_compile compiled).compile_segmentsText

/-- Writing and compiling are inverse to each other on well-formed segments, and compiled segments
are well formed.  So compiled paths have the same segments exactly if they are written alike, and
what is written of a path is written the same once it is compiled again; but the paths are only
equal if their sources are. -/
theorem compile_display_inverse :
    (∀ source path, compile source = .ok path → WellFormed path.segments) ∧
      (∀ segments, WellFormed segments →
        compile (String.ofList (segmentsText segments)) =
          .ok ⟨String.ofList (segmentsText segments), segments⟩) ∧
      (∀ source other path otherPath, compile source = .ok path →
        compile other = .ok otherPath →
          (path.segments = otherPath.segments ↔ path.display = otherPath.display) ∧
            (path = otherPath ↔ source = other)) ∧
      ∀ source path, compile source = .ok path →
        ∃ again, compile path.display = .ok again ∧ again.segments = path.segments ∧
          again.display = path.display := by
  refine ⟨fun source path compiled => wellFormed_of_compile compiled,
    fun segments wellFormed => wellFormed.compile_segmentsText, ?_, ?_⟩
  · intro source other path otherPath compiled otherCompiled
    constructor
    · constructor
      · intro same
        unfold display
        rw [same]
      · intro same
        have here := compile_display compiled
        rw [same, compile_display otherCompiled] at here
        exact (congrArg segments (Except.ok.inj here)).symm
    · constructor
      · rintro rfl
        have here := (compile_eq_ok_iff.mp compiled).2.1
        have there := (compile_eq_ok_iff.mp otherCompiled).2.1
        exact here.symm.trans there
      · rintro rfl
        exact Except.ok.inj (compiled.symm.trans otherCompiled)
  · intro source path compiled
    exact ⟨_, compile_display compiled, rfl, rfl⟩

end Path

end DotPath
