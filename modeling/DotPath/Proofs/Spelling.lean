import DotPath.Path.Compile
import DotPath.Proofs.Collecting

/-!
The spellings of paths.  A path spells its segments between points, a segment its name and then its
positions, and a position its digits in brackets, with any blank space around the digits.  Compiling
accepts exactly the texts that are spelled so, and says of every other text which piece is the first
that is not.
-/

set_option autoImplicit false
set_option relaxedAutoImplicit false

namespace DotPath

/-- A text in brackets that spells a position: digits with blank space around them. -/
def SpellsIndex (index : Nat) (text : List Char) : Prop :=
  ∃ before digits after : List Char,
    text = '[' :: (before ++ digits ++ after ++ [']']) ∧
      (∀ c ∈ before, Text.isBlank c = true) ∧ (∀ c ∈ after, Text.isBlank c = true) ∧
      Text.isNumeral digits = true ∧ Text.value digits = index ∧ index < Path.indexBound

namespace Segment

/-- A piece of text that spells a segment: the name, and then nothing but the positions. -/
def Spells : Segment → List Char → Prop
  | .field name, piece => piece = name.toList ∧ '[' ∉ name.toList
  | .indexed name indices, piece =>
      ∃ groups : List (List Char), piece = name.toList ++ groups.flatten ∧ '[' ∉ name.toList ∧
        indices ≠ [] ∧ List.Forall₂ SpellsIndex indices groups

end Segment

def HasReserved (piece : List Char) : Prop :=
  ∃ c ∈ piece, c ∈ Path.reserved

def IsSegment (segment : Segment) (piece : List Char) : Prop :=
  ¬HasReserved piece ∧ segment.Spells piece

/-- What is wrong with a piece of text.  A reserved character goes before everything else. -/
inductive Offends (piece : List Char) : Failure → Prop
  | reserved (found : HasReserved piece) : Offends piece (.reservedCharacter (String.ofList piece))
  | index (plain : ¬HasReserved piece) (unspelled : ∀ segment : Segment, ¬segment.Spells piece) :
      Offends piece (.badIndex (String.ofList piece))

/-- The pieces that points cut a text into. -/
structure IsCut (text : List Char) (pieces : List (List Char)) : Prop where
  joined : ['.'].intercalate pieces = text
  nonempty : pieces ≠ []
  pointless : ∀ piece ∈ pieces, '.' ∉ piece

/-! Splitting at a separator -/

theorem not_mem_of_mem_splitOn {separator : Char} {text piece : List Char}
    (member : piece ∈ text.splitOn separator) : separator ∉ piece := by
  induction text generalizing piece with
  | nil => simp_all
  | cons c rest ih =>
    rw [List.splitOn_cons_eq_if_modifyHead] at member
    split at member
    · rcases List.mem_cons.mp member with rfl | member
      · simp
      · exact ih member
    · rename_i other
      have some := List.splitOn_ne_nil separator rest
      obtain ⟨head, pieces, split⟩ := List.exists_cons_of_ne_nil some
      rw [split, List.modifyHead_cons] at member
      rcases List.mem_cons.mp member with rfl | member
      · have absent : separator ∉ head := ih (by simp [split])
        have different : separator ≠ c := fun same => other (by simp [same])
        simp [absent, different]
      · exact ih (by simp [split, member])

theorem length_splitOn (separator : Char) (text : List Char) :
    (text.splitOn separator).length = text.count separator + 1 := by
  induction text with
  | nil => simp
  | cons c rest ih =>
    rw [List.splitOn_cons_eq_if_modifyHead, List.count_cons]
    split
    · rw [List.length_cons, ih]
    · rw [List.length_modifyHead, ih, Nat.add_zero]

private theorem intercalate_cons_eq_flatMap (separator : Char) (first : List Char)
    (pieces : List (List Char)) :
    [separator].intercalate (first :: pieces) = first ++ pieces.flatMap (separator :: ·) := by
  induction pieces generalizing first with
  | nil => simp
  | cons second rest ih => simp [List.intercalate_cons_cons, ih]

theorem splitOn_eq_cons_iff {separator : Char} {text first : List Char}
    {pieces : List (List Char)} :
    text.splitOn separator = first :: pieces ↔
      text = first ++ pieces.flatMap (separator :: ·) ∧ separator ∉ first ∧
        ∀ piece ∈ pieces, separator ∉ piece := by
  constructor
  · intro split
    have absent : ∀ piece ∈ first :: pieces, separator ∉ piece := by
      intro piece member
      exact not_mem_of_mem_splitOn (split ▸ member)
    refine ⟨?_, absent first List.mem_cons_self, fun piece member =>
      absent piece (List.mem_cons_of_mem first member)⟩
    rw [← intercalate_cons_eq_flatMap, ← split, List.intercalate_splitOn]
  · rintro ⟨rfl, absent, others⟩
    rw [← intercalate_cons_eq_flatMap]
    apply List.splitOn_intercalate
    · intro piece member
      rcases List.mem_cons.mp member with rfl | member
      · exact absent
      · exact others piece member
    · simp

theorem isCut_iff {text : List Char} {pieces : List (List Char)} :
    IsCut text pieces ↔ pieces = text.splitOn '.' := by
  constructor
  · rintro ⟨rfl, nonempty, pointless⟩
    exact (List.splitOn_intercalate '.' pointless nonempty).symm
  · rintro rfl
    exact ⟨List.intercalate_splitOn '.', List.splitOn_ne_nil '.' text,
      fun piece member => not_mem_of_mem_splitOn member⟩

/-! Positions -/

private theorem not_blank_of_isNumeral {digits : List Char}
    (numeral : Text.isNumeral digits = true) : ∀ c ∈ digits, Text.isBlank c = false := by
  simp only [Text.isNumeral, Bool.and_eq_true, List.all_eq_true] at numeral
  intro c member
  exact Text.isBlank_eq_false_of_isDigit (numeral.2 c member)

private theorem readIndex?_append (inside : List Char) :
    Segment.readIndex? (inside ++ [']']) =
      if Text.isNumeral (Text.trim inside) ∧ Text.value (Text.trim inside) < Path.indexBound then
        some (Text.value (Text.trim inside))
      else none := by
  simp [Segment.readIndex?]

private theorem eq_append_of_readIndex? {group : List Char} {index : Nat}
    (read : Segment.readIndex? group = some index) :
    ∃ inside : List Char, group = inside ++ [']'] := by
  unfold Segment.readIndex? at read
  split at read
  · rename_i reversed flipped
    exact ⟨reversed.reverse, by rw [← List.reverse_reverse group, flipped, List.reverse_cons]⟩
  · cases read

theorem readIndex?_eq_some_iff {group : List Char} {index : Nat} :
    Segment.readIndex? group = some index ↔ SpellsIndex index ('[' :: group) := by
  constructor
  · intro read
    obtain ⟨inside, rfl⟩ := eq_append_of_readIndex? read
    obtain ⟨before, after, blank_before, blank_after, whole⟩ := Text.exists_trim_append inside
    rw [readIndex?_append] at read
    split at read
    · rename_i fits
      cases read
      refine ⟨before, Text.trim inside, after, ?_, blank_before, blank_after, fits.1, rfl, fits.2⟩
      rw [← whole]
    · cases read
  · rintro ⟨before, digits, after, shape, blank_before, blank_after, numeral, rfl, bounded⟩
    obtain rfl : group = before ++ digits ++ after ++ [']'] := (List.cons.inj shape).2
    have trimmed : Text.trim (before ++ digits ++ after) = digits := by
      rw [Text.trim_append blank_before blank_after]
      exact Text.trim_of_not_blank (not_blank_of_isNumeral numeral)
    rw [readIndex?_append, trimmed, if_pos ⟨numeral, bounded⟩]

theorem SpellsIndex.not_mem_tail {index : Nat} {group : List Char}
    (spells : SpellsIndex index ('[' :: group)) : '[' ∉ group := by
  obtain ⟨before, digits, after, shape, blank_before, blank_after, numeral, -, -⟩ := spells
  obtain rfl : group = before ++ digits ++ after ++ [']'] := (List.cons.inj shape).2
  have not_blank : Text.isBlank '[' = false := by decide
  have not_digit : Char.isDigit '[' = false := by decide
  simp only [Text.isNumeral, Bool.and_eq_true, List.all_eq_true] at numeral
  simp only [List.mem_append, List.mem_singleton, not_or]
  refine ⟨⟨⟨fun member => ?_, fun member => ?_⟩, fun member => ?_⟩, by decide⟩
  · simp [blank_before _ member] at not_blank
  · simp [numeral.2 _ member] at not_digit
  · simp [blank_after _ member] at not_blank

private theorem not_reserved_of_blank_or_digit {c : Char}
    (inside : Text.isBlank c = true ∨ c.isDigit = true) : c ≠ '.' ∧ c ∉ Path.reserved := by
  have none : ('.' :: Path.reserved).all (fun c => !Text.isBlank c && !c.isDigit) = true := by
    decide
  rw [← not_or, ← List.mem_cons]
  intro member
  have neither := List.all_eq_true.mp none c member
  simp only [Bool.and_eq_true, Bool.not_eq_true'] at neither
  rcases inside with blank | digit
  · simp [neither.1] at blank
  · simp [neither.2] at digit

theorem SpellsIndex.not_reserved {index : Nat} {text : List Char}
    (spells : SpellsIndex index text) :
    ∀ c ∈ text, c ≠ '.' ∧ c ∉ Path.reserved := by
  obtain ⟨before, digits, after, rfl, blank_before, blank_after, numeral, -, -⟩ := spells
  simp only [Text.isNumeral, Bool.and_eq_true, List.all_eq_true] at numeral
  intro c member
  simp only [List.mem_cons, List.mem_append, List.not_mem_nil, or_false] at member
  rcases member with rfl | ((blank | digit) | blank) | rfl
  · decide
  · exact not_reserved_of_blank_or_digit (.inl (blank_before c blank))
  · exact not_reserved_of_blank_or_digit (.inr (numeral.2 c digit))
  · exact not_reserved_of_blank_or_digit (.inl (blank_after c blank))
  · decide

theorem SpellsIndex.exists_eq_cons {index : Nat} {text : List Char}
    (spells : SpellsIndex index text) : ∃ group : List Char, text = '[' :: group := by
  obtain ⟨before, digits, after, shape, -⟩ := spells
  exact ⟨_, shape⟩

theorem mapM_readIndex?_eq_some_iff {groups : List (List Char)} {indices : List Nat} :
    groups.mapM Segment.readIndex? = some indices ↔
      List.Forall₂ SpellsIndex indices (groups.map ('[' :: ·)) := by
  rw [Collecting.mapM_eq_some_iff, List.forall₂_map_right_iff]
  simp only [readIndex?_eq_some_iff]
  exact ⟨List.Forall₂.flip, List.Forall₂.flip⟩

theorem exists_groups_of_spells {indices : List Nat} {texts : List (List Char)}
    (spells : List.Forall₂ SpellsIndex indices texts) :
    ∃ groups : List (List Char), texts = groups.map ('[' :: ·) ∧ ∀ group ∈ groups, '[' ∉ group := by
  induction spells with
  | nil => exact ⟨[], rfl, by simp⟩
  | cons first _ ih =>
    obtain ⟨group, rfl⟩ := first.exists_eq_cons
    obtain ⟨groups, rfl, unopened⟩ := ih
    refine ⟨group :: groups, rfl, ?_⟩
    intro other member
    rcases List.mem_cons.mp member with rfl | member
    · exact first.not_mem_tail
    · exact unopened other member

/-! Pieces -/

theorem Segment.Spells.not_reserved {segment : Segment} {piece : List Char}
    (spells : segment.Spells piece)
    (name : ∀ c ∈ segment.name.toList, c ≠ '.' ∧ c ∉ Path.reserved) :
    ∀ c ∈ piece, c ≠ '.' ∧ c ∉ Path.reserved := by
  cases segment with
  | field _ =>
    obtain ⟨rfl, -⟩ := spells
    exact name
  | indexed _ indices =>
    obtain ⟨groups, rfl, -, -, each⟩ := spells
    intro c member
    rcases List.mem_append.mp member with inside | behind
    · exact name c inside
    · obtain ⟨group, spelled, inside⟩ := List.mem_flatten.mp behind
      obtain ⟨place, bound, rfl⟩ := List.getElem_of_mem spelled
      exact (each.get (each.length_eq ▸ bound) bound).not_reserved c inside

theorem Segment.Spells.isSegment {segment : Segment} {piece : List Char}
    (spells : segment.Spells piece)
    (name : ∀ c ∈ segment.name.toList, c ≠ '.' ∧ c ∉ Path.reserved) : IsSegment segment piece := by
  refine ⟨?_, spells⟩
  rintro ⟨c, member, reserved⟩
  exact (spells.not_reserved name c member).2 reserved

private theorem any_reserved_iff {piece : List Char} :
    piece.any (Path.reserved.contains ·) = true ↔ HasReserved piece := by
  simp only [List.any_eq_true, List.contains_iff_mem, HasReserved]

private theorem compile_of_reserved {piece : List Char} (found : HasReserved piece) :
    Segment.compile piece = .error (.reservedCharacter (String.ofList piece)) := by
  unfold Segment.compile
  rw [if_pos (any_reserved_iff.mpr found)]

private theorem compile_of_unopened {piece : List Char} (plain : ¬HasReserved piece)
    (unopened : '[' ∉ piece) :
    Segment.compile piece = .ok (.field (String.ofList piece)) := by
  have split : piece.splitOn '[' = [piece] := List.splitOn_eq_singleton unopened
  unfold Segment.compile
  rw [if_neg (mt any_reserved_iff.mp plain)]
  simp only [split]

private theorem compile_of_opened {piece name group : List Char} {groups : List (List Char)}
    (plain : ¬HasReserved piece) (split : piece.splitOn '[' = name :: group :: groups) :
    Segment.compile piece =
      ((group :: groups).mapM Segment.readIndex?).elim (.error (.badIndex (String.ofList piece)))
        fun indices => .ok (.indexed (String.ofList name) indices) := by
  unfold Segment.compile
  rw [if_neg (mt any_reserved_iff.mp plain)]
  simp only [split]
  cases (group :: groups).mapM Segment.readIndex? with
  | none => rfl
  | some indices => rfl

/-- A piece without reserved characters has no bracket and is a name, or is cut at its brackets, and
is an error unless every part behind the first one reads as a position. -/
private theorem compile_cases {piece : List Char} (plain : ¬HasReserved piece) :
    ('[' ∉ piece ∧ Segment.compile piece = .ok (.field (String.ofList piece))) ∨
      ∃ name groups, groups ≠ [] ∧ '[' ∉ name ∧ piece = name ++ groups.flatMap ('[' :: ·) ∧
        Segment.compile piece =
          (groups.mapM Segment.readIndex?).elim (.error (.badIndex (String.ofList piece)))
            fun indices => .ok (.indexed (String.ofList name) indices) := by
  obtain ⟨name, groups, split⟩ := List.exists_cons_of_ne_nil (List.splitOn_ne_nil '[' piece)
  obtain ⟨whole, unopened, -⟩ := splitOn_eq_cons_iff.mp split
  cases groups with
  | nil =>
    -- The first part is all of the piece.
    rw [List.flatMap_nil, List.append_nil] at whole
    subst whole
    exact .inl ⟨unopened, compile_of_unopened plain unopened⟩
  | cons group groups =>
    have compiled := compile_of_opened plain split
    exact .inr ⟨name, group :: groups, List.cons_ne_nil group groups, unopened, whole, compiled⟩

theorem isSegment_of_compile {piece : List Char} {segment : Segment}
    (compiled : Segment.compile piece = .ok segment) : IsSegment segment piece := by
  by_cases found : HasReserved piece
  · rw [compile_of_reserved found] at compiled
    cases compiled
  refine ⟨found, ?_⟩
  rcases compile_cases found with
    ⟨unopened, named⟩ | ⟨name, groups, some, unopened, whole, collected⟩
  · rw [named] at compiled
    cases compiled
    simpa [Segment.Spells] using unopened
  · rw [collected] at compiled
    cases read : groups.mapM Segment.readIndex? with
    | none =>
      rw [read] at compiled
      cases compiled
    | some indices =>
      rw [read] at compiled
      obtain rfl : Segment.indexed (String.ofList name) indices = segment := Except.ok.inj compiled
      have spells := mapM_readIndex?_eq_some_iff.mp read
      have nonempty : indices ≠ [] := by
        rintro rfl
        exact some (List.map_eq_nil_iff.mp (List.forall₂_nil_left_iff.mp spells))
      refine ⟨groups.map ('[' :: ·), ?_, by simpa using unopened, nonempty, spells⟩
      rw [String.toList_ofList, ← List.flatMap_def]
      exact whole

theorem compile_of_isSegment {piece : List Char} {segment : Segment}
    (isSegment : IsSegment segment piece) : Segment.compile piece = .ok segment := by
  obtain ⟨plain, spells⟩ := isSegment
  cases segment with
  | field name =>
    obtain ⟨rfl, unopened⟩ := spells
    rw [compile_of_unopened plain unopened, String.ofList_toList]
  | indexed name indices =>
    obtain ⟨texts, rfl, unopened, nonempty, spells⟩ := spells
    obtain ⟨groups, rfl, others⟩ := exists_groups_of_spells spells
    -- No bracket opens inside a position, so the piece is cut exactly in front of each.
    have split : (name.toList ++ (groups.map ('[' :: ·)).flatten).splitOn '[' =
        name.toList :: groups := by
      rw [← List.flatMap_def]
      exact splitOn_eq_cons_iff.mpr ⟨rfl, unopened, others⟩
    have read := mapM_readIndex?_eq_some_iff.mpr spells
    cases groups with
    | nil =>
      cases spells
      exact absurd rfl nonempty
    | cons group groups =>
      rw [compile_of_opened plain split, read, String.ofList_toList]
      rfl

theorem Segment.compile_eq_ok_iff {piece : List Char} {segment : Segment} :
    Segment.compile piece = .ok segment ↔ IsSegment segment piece :=
  ⟨isSegment_of_compile, compile_of_isSegment⟩

private theorem compile_eq_badIndex {piece : List Char} {failure : Failure}
    (plain : ¬HasReserved piece) (fails : Segment.compile piece = .error failure) :
    failure = .badIndex (String.ofList piece) := by
  rcases compile_cases plain with ⟨-, named⟩ | ⟨name, groups, -, -, -, collected⟩
  · rw [named] at fails
    cases fails
  · rw [collected] at fails
    cases read : groups.mapM Segment.readIndex? with
    | none =>
      rw [read] at fails
      exact (Except.error.inj fails).symm
    | some indices =>
      rw [read] at fails
      cases fails

theorem Segment.compile_eq_error_iff {piece : List Char} {failure : Failure} :
    Segment.compile piece = .error failure ↔ Offends piece failure := by
  constructor
  · intro fails
    by_cases found : HasReserved piece
    · rw [compile_of_reserved found] at fails
      cases fails
      exact .reserved found
    · obtain rfl := compile_eq_badIndex found fails
      refine .index found fun segment spells => ?_
      rw [compile_of_isSegment ⟨found, spells⟩] at fails
      cases fails
  · rintro (found | ⟨plain, unspelled⟩)
    · exact compile_of_reserved found
    · cases compiled : Segment.compile piece with
      | ok segment => exact absurd (isSegment_of_compile compiled).2 (unspelled segment)
      | error failure => rw [compile_eq_badIndex plain compiled]

/-! Paths -/

namespace Path

private theorem compile_empty : compile "" = .error .emptyPath :=
  rfl

theorem compile_of_ne_empty {source : String} (nonempty : source ≠ "") :
    compile source = ((source.toList.splitOn '.').mapM Segment.compile).map (⟨source, ·⟩) := by
  unfold compile
  rw [if_neg (by simpa using nonempty)]
  cases (source.toList.splitOn '.').mapM Segment.compile <;> rfl

theorem compile_eq_ok_iff {source : String} {path : Path} :
    compile source = .ok path ↔
      source ≠ "" ∧ path.source = source ∧
        List.Forall₂ IsSegment path.segments (source.toList.splitOn '.') := by
  by_cases empty : source = ""
  · simp [empty, compile_empty]
  rw [compile_of_ne_empty empty]
  have collected (segments : List Segment) :
      (source.toList.splitOn '.').mapM Segment.compile = .ok segments ↔
        List.Forall₂ IsSegment segments (source.toList.splitOn '.') := by
    rw [Collecting.mapM_eq_ok_iff]
    simp only [Segment.compile_eq_ok_iff]
    exact ⟨List.Forall₂.flip, List.Forall₂.flip⟩
  rw [← collected]
  obtain ⟨text, segments⟩ := path
  cases (source.toList.splitOn '.').mapM Segment.compile with
  | error failure => simp [Except.map]
  | ok found => simp [Except.map, empty, eq_comm]

theorem compile_eq_error_iff {source : String} {failure : Failure} :
    compile source = .error failure ↔
      (source = "" ∧ failure = .emptyPath) ∨
        source ≠ "" ∧ ∃ before piece after, source.toList.splitOn '.' = before ++ piece :: after ∧
          (∀ earlier ∈ before, ∃ segment, IsSegment segment earlier) ∧ Offends piece failure := by
  by_cases empty : source = ""
  · simp [empty, compile_empty, eq_comm]
  have collected :
      (source.toList.splitOn '.').mapM Segment.compile = .error failure ↔
        ∃ before piece after, source.toList.splitOn '.' = before ++ piece :: after ∧
          (∀ earlier ∈ before, ∃ segment, IsSegment segment earlier) ∧ Offends piece failure := by
    rw [Collecting.mapM_eq_error_iff]
    simp only [Segment.compile_eq_ok_iff, Segment.compile_eq_error_iff]
  rw [compile_of_ne_empty empty, ← collected]
  cases (source.toList.splitOn '.').mapM Segment.compile with
  | error other => simp [Except.map, empty]
  | ok found => simp [Except.map, empty]

/-- Every text has one cut at its points, with one piece more than it has points.  The text compiles
exactly if it is not empty and every piece, without reserved characters, spells a segment; the
segments are those, in order.  Otherwise the failure is that of the empty text, or of the first
piece from the left that is wrong. -/
theorem compile_exact (source : String) :
    ∃ pieces : List (List Char), (∀ cut, IsCut source.toList cut ↔ cut = pieces) ∧
      pieces.length = source.toList.count '.' + 1 ∧
      ((∃ path, compile source = .ok path) ↔
        source ≠ "" ∧ ∀ piece ∈ pieces, ∃ segment, IsSegment segment piece) ∧
      (∀ path, compile source = .ok path ↔
        source ≠ "" ∧ path.source = source ∧ List.Forall₂ IsSegment path.segments pieces) ∧
      (∀ path, compile source = .ok path →
        path.segments.length = source.toList.count '.' + 1) ∧
      ∀ failure, compile source = .error failure ↔
        (source = "" ∧ failure = .emptyPath) ∨
          source ≠ "" ∧ ∃ before piece after, pieces = before ++ piece :: after ∧
            (∀ earlier ∈ before, ∃ segment, IsSegment segment earlier) ∧
            Offends piece failure := by
  refine ⟨source.toList.splitOn '.', fun cut => isCut_iff, length_splitOn '.' source.toList, ?_,
    fun path => compile_eq_ok_iff, ?_, fun failure => compile_eq_error_iff⟩
  · simp only [compile_eq_ok_iff, ← Collecting.exists_forall₂_iff]
    constructor
    · rintro ⟨path, nonempty, -, spelled⟩
      exact ⟨nonempty, path.segments, spelled⟩
    · rintro ⟨nonempty, segments, spelled⟩
      exact ⟨⟨source, segments⟩, nonempty, rfl, spelled⟩
  · intro path compiled
    have spelled := (compile_eq_ok_iff.mp compiled).2.2
    rw [spelled.length_eq, length_splitOn]

end Path

end DotPath
