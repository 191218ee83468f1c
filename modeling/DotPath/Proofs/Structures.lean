import DotPath.Proofs.Collecting
import DotPath.Proofs.CommandRuns
import DotPath.Proofs.KeyOrder

/-!
Structures decoded in full.  An array is decoded item by item, in order and all or nothing; and as a
node of any shape, or an object of any nodes, it is what it was, so that the command prints arrays
and objects the same whether it reads them as structures or as nodes.
-/

set_option autoImplicit false
set_option relaxedAutoImplicit false

namespace DotPath

/-! Decoding as any node -/

namespace Shape

theorem decode_any (node : Json) : any.decode node = .ok node.rebuilt := by
  rw [decode]

theorem mapM_decode_any (items : List Json) :
    items.mapM any.decode = .ok (Json.rebuiltItems items) := by
  rw [Json.rebuiltItems_eq_map, Collecting.mapM_eq_ok_iff, List.forall₂_map_right_iff]
  exact List.forall₂_same.mpr fun item _ => decode_any item

theorem decode_dictionary_any (members : List (String × Json)) :
    (dictionary any).decode (.object members) = .ok (Json.object members).rebuilt := by
  have decoded : (members.mapM fun member => do
      let value ← any.decode member.2
      pure (member.1, value)) = Except.ok (Json.rebuiltMembers members) := by
    rw [Json.rebuiltMembers_eq_map, Collecting.mapM_eq_ok_iff, List.forall₂_map_right_iff]
    refine List.forall₂_same.mpr fun member _ => ?_
    rw [decode_any]
    rfl
  rw [decode]
  exact congrArg (Except.bind · fun values => .ok (Json.ofMembers values)) decoded

end Shape

namespace Located

section Arrays

variable {α : Type} {decode : Json → Except Mismatch α} {items : List Json}

theorem outcome_toArray_eq (decode : Json → Except Mismatch α) (items : List Json) :
    ((found (.array items)).toArray decode).outcome =
      match items.mapM decode with
      | .ok values => .ok (some values)
      | .error mismatch => .error (.mismatched mismatch) := by
  simp only [toArray, Logged.outcome_bind]
  cases items.mapM decode with
  | ok values => rfl
  | error mismatch => rfl

theorem outcome_toArray_eq_ok_iff {values : List α} :
    ((found (.array items)).toArray decode).outcome = .ok (some values) ↔
      List.Forall₂ (fun item value => decode item = .ok value) items values := by
  rw [outcome_toArray_eq, ← Collecting.mapM_eq_ok_iff]
  cases items.mapM decode with
  | ok others => simp
  | error mismatch => simp

/-- An array that is not decoded fails with the mismatch of its first item that has one. -/
theorem outcome_toArray_eq_error_iff {failure : Failure} :
    ((found (.array items)).toArray decode).outcome = .error failure ↔
      ∃ before item after mismatch, items = before ++ item :: after ∧
        (∀ earlier ∈ before, ∃ value, decode earlier = .ok value) ∧
        decode item = .error mismatch ∧ failure = .mismatched mismatch := by
  rw [outcome_toArray_eq]
  constructor
  · intro fails
    cases decoded : items.mapM decode with
    | ok values =>
      rw [decoded] at fails
      cases fails
    | error mismatch =>
      rw [decoded] at fails
      cases fails
      obtain ⟨before, item, after, split, succeed, mismatched⟩ :=
        Collecting.mapM_eq_error_iff.mp decoded
      exact ⟨before, item, after, mismatch, split, succeed, mismatched, rfl⟩
  · rintro ⟨before, item, after, mismatch, split, succeed, mismatched, rfl⟩
    rw [Collecting.mapM_eq_error_iff.mpr ⟨before, item, after, split, succeed, mismatched⟩]

end Arrays

theorem toArray_any (items : List Json) :
    (found (.array items)).toArray Shape.any.decode = pure (some (Json.rebuiltItems items)) := by
  simp only [toArray, Shape.mapM_decode_any]
  rfl

theorem toObject_dictionary_any (members : List (String × Json)) :
    (found (.object members)).toObject (Shape.dictionary .any).decode =
      pure (some (Json.object members).rebuilt) := by
  simp only [toObject, Shape.decode_dictionary_any]
  rfl

end Located

theorem isOrdered_of_locate {root node : Json} {source : String} (ordered : root.IsOrdered)
    (located : (locate root source).outcome = .ok (.found node)) : node.IsOrdered := by
  rw [outcome_locate] at located
  cases compiled : Path.compile source with
  | error failure =>
    rw [compiled] at located
    cases located
  | ok path =>
    rw [compiled] at located
    have followed : (path.evaluate root).outcome = .ok (.found node) := located
    rw [Path.outcome_evaluate, follow_eq_found_iff] at followed
    exact ordered.at? followed

/-! Nodes in key order -/

namespace Located

theorem toArray_any_of_isOrdered {items : List Json} (ordered : (Json.array items).IsOrdered) :
    (found (.array items)).toArray Shape.any.decode = pure (some items) := by
  have same : Json.rebuiltItems items = items := Json.array.inj ordered.rebuilt_eq
  rw [toArray_any, same]

theorem toObject_dictionary_any_of_isOrdered {members : List (String × Json)}
    (ordered : (Json.object members).IsOrdered) :
    (found (.object members)).toObject (Shape.dictionary .any).decode =
      pure (some (.object members)) := by
  rw [toObject_dictionary_any, ordered.rebuilt_eq]

end Located

/-- The structure of any nodes that a node of a kind may be read as, besides the node itself. -/
inductive Target.Restates : Target → Kind → Prop
  | array : Restates (.array .any) .array
  | object : Restates (.object (.dictionary .any)) .object

theorem Target.Restates.exists_read {target : Target} {node : Json}
    (restates : target.Restates node.kind) (ordered : node.IsOrdered) :
    ∃ answer : Answer, target.read (.found node) = pure answer ∧ answer.toJson = node := by
  generalize kind_eq : node.kind = kind at restates
  cases restates with
  | array =>
    cases node with
    | array items =>
      refine ⟨.array (some items), ?_, rfl⟩
      rw [read, Located.toArray_any_of_isOrdered ordered]
      rfl
    | _ => cases kind_eq
  | object =>
    cases node with
    | object members =>
      refine ⟨.object (some (.object members)), ?_, rfl⟩
      rw [read, Located.toObject_dictionary_any_of_isOrdered ordered]
      rfl
    | _ => cases kind_eq

/-! The command -/

namespace Command

section Runs

variable {fileText : String → Except String String} {reader : String → Except String Json}
  {arguments : Arguments} {root : Json}

theorem execute_of_read {here : Located} {answer : Answer}
    (has : HasDocument fileText reader arguments root)
    (located : (locate root arguments.path).outcome = .ok here)
    (read : arguments.target.read here = pure answer) :
    execute fileText reader arguments =
      ⟨0, answer.toJson.indented ++ "\n",
        logLines arguments.verbosity (locate root arguments.path).events⟩ := by
  rw [execute_of_document has, readAt, Logged.bind_of_ok located, read]
  simp only [Ending.ofReading, Logged.outcome_pure, Logged.events_pure, List.append_nil,
    Ending.outcome]

theorem execute_of_restates {target : Target} {node : Json}
    (has : HasDocument fileText reader arguments root) (ordered : root.IsOrdered)
    (located : (locate root arguments.path).outcome = .ok (.found node))
    (restates : target.Restates node.kind) :
    execute fileText reader { arguments with target } =
      execute fileText reader { arguments with target := .node } := by
  obtain ⟨answer, read, same⟩ := restates.exists_read (isOrdered_of_locate ordered located)
  have itself : Target.node.read (.found node) = pure (.node (.found node)) := rfl
  have structured : HasDocument fileText reader { arguments with target } root :=
    has.of_same rfl rfl
  have plain : HasDocument fileText reader { arguments with target := .node } root :=
    has.of_same rfl rfl
  rw [execute_of_read structured located read, execute_of_read plain located itself, same]
  rfl

theorem run_of_restates {target : Target} {node : Json} {line other : List String}
    (has : HasDocument fileText reader arguments root) (ordered : root.IsOrdered)
    (located : (locate root arguments.path).outcome = .ok (.found node))
    (restates : target.Restates node.kind)
    (accepted : parse? line = some { arguments with target })
    (itself : parse? other = some { arguments with target := .node }) :
    run fileText reader line = run fileText reader other := by
  rw [run_of_parse? accepted, run_of_parse? itself]
  exact execute_of_restates has ordered located restates

theorem run_line_of_restates {name path document : String} {target : Target} {node : Json}
    (named : targets.lookup name = some target) (parsed : reader document = .ok root)
    (ordered : root.IsOrdered) (located : (locate root path).outcome = .ok (.found node))
    (restates : target.Restates node.kind) :
    run fileText reader ["--as", name, "--", path, document] =
      run fileText reader ["--as", "node", "--", path, document] := by
  have has : HasDocument fileText reader ⟨path, some document, none, .node, 0⟩ root :=
    ⟨document, .argument rfl rfl, parsed⟩
  exact run_of_restates has ordered located restates (parse?_ordinary named path document)
    (parse?_ordinary rfl path document)

end Runs

end Command

open Command (Arguments HasDocument parse? run)
open Located (found)

/-- Structures lose, reorder and invent nothing.  An array is decoded to just the values of all its
items in order, or fails with the mismatch of the first item that has one.  As any nodes, arrays and
objects are always decoded, and to themselves exactly if they are in key order, which every node
that is located in a document that is read is.  So the command does the same with an array or an
object, whether it is asked for as a structure or as a node. -/
theorem structures_exact :
    (∀ (α : Type) (decode : Json → Except Mismatch α) (items : List Json),
        let here := found (.array items)
        (∀ values : List α, (here.toArray decode).outcome = .ok (some values) ↔
            List.Forall₂ (fun item value => decode item = .ok value) items values) ∧
          (∀ values : List α, (here.toArray decode).outcome = .ok (some values) →
            here.toArrayLength.outcome = .ok values.length) ∧
          (here.toArray decode).outcome ≠ .ok none ∧
          ∀ failure, (here.toArray decode).outcome = .error failure ↔
            ∃ before item after mismatch, items = before ++ item :: after ∧
              (∀ earlier ∈ before, ∃ value, decode earlier = .ok value) ∧
              decode item = .error mismatch ∧ failure = .mismatched mismatch) ∧
      (∀ items : List Json, ∃ values,
        ((found (.array items)).toArray Shape.any.decode).outcome = .ok (some values) ∧
          (values = items ↔ (Json.array items).IsOrdered)) ∧
      (∀ members : List (String × Json), ∃ value,
        ((found (.object members)).toObject (Shape.dictionary .any).decode).outcome =
            .ok (some value) ∧
          (value = .object members ↔ (Json.object members).IsOrdered)) ∧
      (∀ (text source : String) (root node : Json), Json.ofString? text = some root →
        (locate root source).outcome = .ok (.found node) → node.IsOrdered) ∧
      (∀ (fileText : String → Except String String) (cause : String → String)
        (arguments : Arguments) (root node : Json) (target : Target),
        HasDocument fileText (Json.read cause) arguments root →
        (locate root arguments.path).outcome = .ok (.found node) → target.Restates node.kind →
          ∀ line other, parse? line = some { arguments with target } →
            parse? other = some { arguments with target := .node } →
              run fileText (Json.read cause) line = run fileText (Json.read cause) other) ∧
      ∀ (fileText : String → Except String String) (cause : String → String)
        (path document : String) (root node : Json),
        Json.ofString? document = some root → (locate root path).outcome = .ok (.found node) →
          (node.kind = .array →
            run fileText (Json.read cause) ["--as", "array", "--", path, document] =
              run fileText (Json.read cause) ["--as", "node", "--", path, document]) ∧
          (node.kind = .object →
            run fileText (Json.read cause) ["--as", "object", "--", path, document] =
              run fileText (Json.read cause) ["--as", "node", "--", path, document]) := by
  refine ⟨fun α decode items => ⟨fun values => Located.outcome_toArray_eq_ok_iff, ?_, ?_,
    fun failure => Located.outcome_toArray_eq_error_iff⟩, fun items => ?_, fun members => ?_, ?_,
    ?_, ?_⟩
  · intro values decoded
    have each := Located.outcome_toArray_eq_ok_iff.mp decoded
    rw [← each.length_eq]
    rfl
  · rw [Located.outcome_toArray_eq]
    cases items.mapM decode <;> nofun
  · refine ⟨Json.rebuiltItems items, by rw [Located.toArray_any]; rfl, ?_⟩
    rw [← Json.rebuilt_eq_self_iff, Json.rebuilt, Json.array.injEq]
  · refine ⟨(Json.object members).rebuilt, by rw [Located.toObject_dictionary_any]; rfl, ?_⟩
    exact Json.rebuilt_eq_self_iff
  · intro text source root node parsed located
    exact isOrdered_of_locate (Json.isOrdered_of_ofString? parsed) located
  · intro fileText cause arguments root node target has located restates line other accepted itself
    have ordered : root.IsOrdered := by
      obtain ⟨text, -, parsed⟩ := has
      exact Json.isOrdered_of_ofString? (Json.read_eq_ok_iff.mp parsed)
    exact Command.run_of_restates has ordered located restates accepted itself
  · intro fileText cause path document root node parsed located
    have ordered := Json.isOrdered_of_ofString? parsed
    have parsed : Json.read cause document = .ok root := Json.read_eq_ok_iff.mpr parsed
    exact
      ⟨fun kind => Command.run_line_of_restates rfl parsed ordered located (kind ▸ .array),
        fun kind => Command.run_line_of_restates rfl parsed ordered located (kind ▸ .object)⟩

theorem structures_exact_nested :
    let document := "[[1, 1.0, \x7b\"b\": 0, \"a\": []\x7d]]"
    let printed (name : String) :=
      run (fun _ => .error "") (Json.read fun _ => "") ["--as", name, "--", "[0]", document]
    printed "array" = printed "node" ∧
      printed "array" =
        ⟨0, "[\n  1,\n  1.0,\n  \x7b\n    \"a\": [],\n    \"b\": 0\n  \x7d\n]\n", []⟩ := by
  obtain ⟨-, -, -, -, -, prints⟩ := structures_exact
  have same := (prints (fun _ => .error "") (fun _ => "") "[0]"
    "[[1, 1.0, \x7b\"b\": 0, \"a\": []\x7d]]" _ _ rfl rfl).1 rfl
  exact ⟨same, by decide +kernel⟩

end DotPath
