import DotPath.Proofs.PathEquivalence

/-!
Addresses as paths.  An address is written step by step, a key as it is and a position in brackets,
with points between them.  Every step is then a segment of its own, and a walk along the written
address finds exactly the node that has the address.
-/

set_option autoImplicit false
set_option relaxedAutoImplicit false

namespace DotPath

namespace Step

def text : Step → List Char
  | .key name => name.toList
  | .index place => Segment.indexText place

def segment : Step → Segment
  | .key name => .field name
  | .index place => .indexed "" [place]

@[simp]
theorem text_segment (step : Step) : step.segment.text = step.text := by
  cases step with
  | key name => rfl
  | index place => simp [segment, text, Segment.text]

@[simp]
theorem steps_segment (step : Step) : step.segment.steps = [step] := by
  cases step with
  | key name => rfl
  | index place => rfl

end Step

def addressText (address : List Step) : String :=
  String.ofList (['.'].intercalate (address.map Step.text))

/-- Addresses that their text stands for: the keys are names, and the positions are in bounds.  The
empty key alone is left out, for its text is empty, and so is the root, which no path leads to. -/
structure Expressible (address : List Step) : Prop where
  not_root : address ≠ []
  not_blank : address ≠ [.key ""]
  keys : ∀ name, .key name ∈ address → IsName name
  positions : ∀ place, .index place ∈ address → place < Path.indexBound

private theorem segmentsText_address (address : List Step) :
    String.ofList (Path.segmentsText (address.map Step.segment)) = addressText address := by
  have texts : (address.map Step.segment).map Segment.text = address.map Step.text := by
    rw [List.map_map]
    exact List.map_congr_left fun step _ => step.text_segment
  unfold Path.segmentsText addressText
  rw [texts]

private theorem steps_address (source : String) (address : List Step) :
    Path.steps ⟨source, address.map Step.segment⟩ = address := by
  have singles : (fun step : Step => step.segment.steps) = fun step => [step] :=
    funext Step.steps_segment
  rw [Path.steps, List.flatMap_map, singles, List.flatMap_singleton']

namespace Expressible

variable {address other : List Step}

private theorem eq_singleton_key (written : address.map Step.segment = [.field ""]) :
    address = [.key ""] := by
  obtain ⟨step, rfl, same⟩ := List.map_eq_singleton_iff.mp written
  cases step with
  | key name =>
    cases same
    rfl
  | index place => cases same

theorem wellFormed (expressible : Expressible address) :
    WellFormed (address.map Step.segment) where
  nonempty none := expressible.not_root (List.map_eq_nil_iff.mp none)
  not_blank blank := expressible.not_blank (eq_singleton_key blank)
  names segment member c inside := by
    obtain ⟨step, there, rfl⟩ := List.mem_map.mp member
    cases step with
    | key name => exact expressible.keys name there c inside
    | index place => simp [Step.segment, Segment.name] at inside
  indices name indices member := by
    obtain ⟨step, there, same⟩ := List.mem_map.mp member
    cases step with
    | key name => cases same
    | index place =>
      cases same
      have bounded := expressible.positions place there
      exact ⟨List.cons_ne_nil place [], List.forall_mem_singleton.mpr bounded⟩

theorem compile_addressText (expressible : Expressible address) :
    Path.compile (addressText address) =
      .ok ⟨addressText address, address.map Step.segment⟩ := by
  have compiled := expressible.wellFormed.compile_segmentsText
  rw [segmentsText_address] at compiled
  exact compiled

theorem addressText_inj (expressible : Expressible address) (otherExpressible : Expressible other)
    (same : addressText address = addressText other) : address = other := by
  have compiled := expressible.compile_addressText
  rw [same, otherExpressible.compile_addressText] at compiled
  have segments : other.map Step.segment = address.map Step.segment :=
    congrArg Path.segments (Except.ok.inj compiled)
  rw [← steps_address "" address, ← segments, steps_address]

/-- The text of an address compiles, and leads in every document to the node at the address,
whatever that is, and to no node if there is none.  No other address has the same text. -/
theorem evaluate_addressText (expressible : Expressible address) :
    ∃ path, Path.compile (addressText address) = .ok path ∧
      (∀ (root node : Json), (path.evaluate root).outcome = .ok (.found node) ↔
        root.at? address = some node) ∧
      (∀ (root node : Json), (locate root (addressText address)).outcome = .ok (.found node) ↔
        root.at? address = some node) ∧
      ∀ other, Expressible other → addressText other = addressText address → other = address := by
  have compiled := expressible.compile_addressText
  have found (root node : Json) :
      (Path.evaluate ⟨addressText address, address.map Step.segment⟩ root).outcome =
          .ok (.found node) ↔ root.at? address = some node := by
    rw [Path.outcome_evaluate, follow_eq_found_iff, steps_address]
  refine ⟨_, compiled, found, fun root node => ?_, fun other otherExpressible same => ?_⟩
  · rw [outcome_locate_of_compile compiled]
    exact found root node
  · exact otherExpressible.addressText_inj expressible same

theorem null_behind_empty_key :
    Expressible [.index 1, .key "", .key "a"] ∧
      ∃ path, Path.compile "[1]..a" = .ok path ∧
        (path.evaluate (.array [.null, .object [("", .object [("a", .null)])]])).outcome =
          .ok (.found .null) := by
  have expressible : Expressible [.index 1, .key "", .key "a"] :=
    { not_root := by decide
      not_blank := by decide
      keys := by
        simp only [List.mem_cons, reduceCtorEq, Step.key.injEq, List.not_mem_nil, or_false,
          false_or]
        rintro name (rfl | rfl)
        · exact List.forall_mem_nil _
        · exact List.forall_mem_singleton.mpr (by decide)
      positions := by simp [Path.indexBound] }
  have written : addressText [.index 1, .key "", .key "a"] = "[1]..a" := by decide
  obtain ⟨path, compiled, found, -⟩ := expressible.evaluate_addressText
  rw [written] at compiled
  exact ⟨expressible, path, compiled, (found _ _).mpr rfl⟩

end Expressible

end DotPath
