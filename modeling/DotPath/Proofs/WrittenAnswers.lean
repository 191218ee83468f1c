import DotPath.Proofs.ArrayPositions
import DotPath.Proofs.CommandRuns
import DotPath.Proofs.FloatReading
import DotPath.Proofs.KindDiscipline

/-!
What the command prints for its answers.  A scalar is printed as a boolean, a number or a string as
its type says, and never as null, but for the floats that are not finite, for which a document has
no number; the other targets print null just for the nodes that they are not made for.
-/

set_option autoImplicit false
set_option relaxedAutoImplicit false

namespace DotPath

namespace Json

/-! The text of null -/

theorem exists_digits_eq_cons (n : Nat) :
    ∃ first rest, Text.digits n = first :: rest ∧ first.isDigit = true := by
  cases digits : Text.digits n with
  | nil => exact absurd digits (Text.digits_ne_nil n)
  | cons first rest =>
    refine ⟨first, rest, rfl, Text.isDigit_of_mem_digits (n := n) ?_⟩
    rw [digits]
    exact List.mem_cons_self

def BeginsNumber (text : List Char) : Prop :=
  ∃ first rest, text = first :: rest ∧ (first = '-' ∨ first.isDigit = true)

theorem exists_decimalText_eq_cons (d : Binary.Scientific) :
    ∃ first rest, decimalText d = first :: rest ∧ first.isDigit = true := by
  obtain ⟨first, rest, digits, digit⟩ := exists_digits_eq_cons d.significand
  unfold decimalText
  split
  · exact ⟨'0', ['.', '0'], rfl, rfl⟩
  · dsimp only
    rw [digits]
    split
    · unfold positional
      split
      · exact ⟨first, _, rfl, digit⟩
      · split
        next inside =>
          have positive : ((first :: rest).length + d.exponent).toNat ≠ 0 := by omega
          obtain ⟨count, successor⟩ := Nat.exists_eq_succ_of_ne_zero positive
          rw [successor]
          exact ⟨first, _, rfl, digit⟩
        next => exact ⟨'0', _, rfl, rfl⟩
    · unfold exponential
      cases rest with
      | nil => exact ⟨first, _, rfl, digit⟩
      | cons second rest => exact ⟨first, _, rfl, digit⟩

theorem beginsNumber_text (number : Number) : BeginsNumber number.text := by
  cases number with
  | integer k exact =>
    obtain ⟨first, rest, digits, digit⟩ := exists_digits_eq_cons k.natAbs
    show BeginsNumber (Text.signedDigits k)
    unfold Text.signedDigits
    split
    · exact ⟨'-', _, rfl, .inl rfl⟩
    · exact ⟨first, rest, digits, .inr digit⟩
  | float x =>
    obtain ⟨first, rest, decimal, digit⟩ := exists_decimalText_eq_cons x.shortest
    show BeginsNumber (floatText x)
    unfold floatText
    split
    · exact ⟨'-', _, rfl, .inl rfl⟩
    · exact ⟨first, rest, decimal, .inr digit⟩

theorem enclose_ne_nullText (depth : Nat) (closing : Char) {opening : Char}
    (parts : List (List Char)) (other : opening ≠ 'n') :
    enclose depth opening closing parts ≠ nullText := by
  intro same
  unfold enclose at same
  split at same
  · exact other (List.cons.inj same).1
  · exact other (List.cons.inj same).1

theorem indentedText_eq_nullText_iff (depth : Nat) (document : Json) :
    document.indentedText depth = nullText ↔ document = .null := by
  constructor
  · intro same
    cases document with
    | null => rfl
    | bool value => cases value <;> cases same
    | number value =>
      obtain ⟨first, rest, text, begins⟩ := beginsNumber_text value
      have head : first = 'n' := by
        have same : value.text = nullText := same
        rw [text] at same
        exact (List.cons.inj same).1
      rw [head] at begins
      rcases begins with minus | digit
      · cases minus
      · cases digit
    | string text => cases same
    | array items => exact absurd same (enclose_ne_nullText depth ']' _ (by decide))
    | object members => exact absurd same (enclose_ne_nullText depth '\x7d' _ (by decide))
  · rintro rfl
    rfl

theorem indented_append_eq_null_iff (document : Json) :
    document.indented ++ "\n" = "null\n" ↔ document = .null := by
  rw [← indentedText_eq_nullText_iff 0]
  constructor
  · intro same
    have lists : document.indentedText 0 ++ ['\n'] = nullText ++ ['\n'] := by
      have texts := congrArg String.toList same
      rw [String.toList_append, indented, String.toList_ofList] at texts
      exact texts
    exact List.append_cancel_right lists
  · intro same
    unfold indented
    rw [same]
    rfl

end Json

open Binary (Datum PastRange binary32 binary64)

/-! What is written for a value -/

def ScalarType.writtenKind : ScalarType → Kind
  | .bool => .boolean
  | .integer _ | .float32 | .float64 | .arrayLength => .number
  | .decimal | .dateTime | .zonedDateTime => .string

/-- Holds of the nodes that a target writes as null.  For the node itself these are a missing node
and null; for a text, the nodes without one; for a structure, the nodes of other kinds.  For a float
they are the texts past the range of its format, and in the smaller format the numbers from its
overflow bound on.  The last case is an array with more items than an index can tell. -/
inductive Target.WritesNull : Target → Located → Prop
  | node {here : Located} (absent : here.kind = .missing ∨ here.kind = .null) :
      WritesNull .node here
  | text {here : Located} (textless : here.kind ∈ [.null, .array, .object, .missing]) :
      WritesNull .text here
  | object {shape : Shape} {here : Located} (other : here.kind ≠ .object) :
      WritesNull (.object shape) here
  | array {shape : Shape} {here : Located} (other : here.kind ≠ .array) :
      WritesNull (.array shape) here
  | literal64 {text : String} (past : PastRange binary64 (Text.trim text.toList)) :
      WritesNull (.scalar .float64) (.found (.string text))
  | literal32 {text : String} (past : PastRange binary32 (Text.trim text.toList)) :
      WritesNull (.scalar .float32) (.found (.string text))
  | number32 {number : Json.Number} (beyond : binary32.overflowBound ≤ |number.toRat|) :
      WritesNull (.scalar .float32) (.found (.number number))
  | length {items : List Json} (beyond : 2 ^ (64 : Nat) ≤ items.length) :
      WritesNull (.scalar .arrayLength) (.found (.array items))

section Floats

variable {here : Located}

theorem Json.ofDatum_cases (datum : Datum binary64) :
    (¬datum.IsFinite ∧ Json.ofDatum datum = .null) ∨
      (datum.IsFinite ∧ (Json.ofDatum datum).kind = .number) := by
  cases datum with
  | nan => exact .inl ⟨Datum.not_isFinite_nan, rfl⟩
  | infinite negative => exact .inl ⟨Datum.not_isFinite_infinite negative, rfl⟩
  | finite x => exact .inr ⟨⟨x, rfl⟩, rfl⟩

theorem Binary.Datum.isFinite_convert_binary64_iff {datum : Datum binary32} :
    (datum.convert binary64).IsFinite ↔ datum.IsFinite := by
  cases datum with
  | nan => exact iff_of_false Datum.not_isFinite_nan Datum.not_isFinite_nan
  | infinite negative =>
    exact iff_of_false (Datum.not_isFinite_infinite negative) (Datum.not_isFinite_infinite negative)
  | finite x => exact iff_of_true x.isFinite_convert_binary64 ⟨x, rfl⟩

theorem writesNull_float64_iff {datum : Datum binary64}
    (read : here.toBinary64.outcome = .ok datum) :
    (Target.scalar .float64).WritesNull here ↔ ¬datum.IsFinite := by
  have exact : (∃ other, here.toBinary64.outcome = .ok other ∧ ¬other.IsFinite) ↔
      ¬datum.IsFinite := by
    simp only [read, Except.ok.injEq, exists_eq_left']
  rw [← exact, Located.not_isFinite_toBinary64_iff]
  constructor
  · intro writes
    cases writes with
    | literal64 past => exact ⟨_, rfl, past⟩
  · rintro ⟨text, rfl, past⟩
    exact .literal64 past

theorem writesNull_float32_iff {datum : Datum binary32}
    (read : here.toBinary32.outcome = .ok datum) :
    (Target.scalar .float32).WritesNull here ↔ ¬datum.IsFinite := by
  have exact : (∃ other, here.toBinary32.outcome = .ok other ∧ ¬other.IsFinite) ↔
      ¬datum.IsFinite := by
    simp only [read, Except.ok.injEq, exists_eq_left']
  rw [← exact, Located.not_isFinite_toBinary32_iff]
  constructor
  · intro writes
    cases writes with
    | literal32 past => exact .inl ⟨_, rfl, past⟩
    | number32 beyond => exact .inr ⟨_, rfl, beyond⟩
  · rintro (⟨text, rfl, past⟩ | ⟨number, rfl, beyond⟩)
    · exact .literal32 past
    · exact .number32 beyond

end Floats

theorem IntegerType.Holds.isExact {type : IntegerType} {k : Int} (holds : type.Holds k) :
    Json.IsExact k := by
  unfold Holds at holds
  unfold Json.IsExact
  cases type with (simp only [least, greatest, isSigned, width] at holds; omega)

theorem Json.kind_ofInt {k : Int} (exact : IsExact k) : (Json.ofInt k).kind = .number := by
  unfold ofInt
  rw [dif_pos exact]
  rfl

theorem ScalarType.written_of_read {type : ScalarType} {here : Located} {answer : Answer}
    (read : (type.read here).outcome = .ok answer) :
    ((Target.scalar type).WritesNull here ∧ answer.toJson = .null) ∨
      (¬(Target.scalar type).WritesNull here ∧ answer.toJson.kind = type.writtenKind) := by
  cases type with
  | bool =>
    obtain ⟨value, -, rfl⟩ := Logged.outcome_map_eq_ok_iff.mp read
    refine .inr ⟨fun writes => ?_, rfl⟩
    cases writes
  | integer type =>
    obtain ⟨k, reads, rfl⟩ := Logged.outcome_map_eq_ok_iff.mp read
    have holds := (Located.outcome_toInteger_eq_ok_iff.mp reads).1
    refine .inr ⟨fun writes => ?_, Json.kind_ofInt holds.isExact⟩
    cases writes
  | float32 =>
    obtain ⟨datum, reads, rfl⟩ := Logged.outcome_map_eq_ok_iff.mp read
    rw [writesNull_float32_iff reads, not_not, ← Datum.isFinite_convert_binary64_iff]
    exact Json.ofDatum_cases (datum.convert binary64)
  | float64 =>
    obtain ⟨datum, reads, rfl⟩ := Logged.outcome_map_eq_ok_iff.mp read
    rw [writesNull_float64_iff reads, not_not]
    exact Json.ofDatum_cases datum
  | decimal =>
    obtain ⟨value, -, rfl⟩ := Logged.outcome_map_eq_ok_iff.mp read
    refine .inr ⟨fun writes => ?_, rfl⟩
    cases writes
  | dateTime =>
    obtain ⟨value, -, rfl⟩ := Logged.outcome_map_eq_ok_iff.mp read
    refine .inr ⟨fun writes => ?_, rfl⟩
    cases writes
  | zonedDateTime =>
    obtain ⟨value, -, rfl⟩ := Logged.outcome_map_eq_ok_iff.mp read
    refine .inr ⟨fun writes => ?_, rfl⟩
    cases writes
  | arrayLength =>
    obtain ⟨length, reads, rfl⟩ := Logged.outcome_map_eq_ok_iff.mp read
    obtain ⟨items, rfl, rfl⟩ := Located.outcome_toArrayLength_eq_ok_iff.mp reads
    by_cases beyond : 2 ^ (64 : Nat) ≤ items.length
    · have notExact : ¬Json.IsExact items.length := by
        unfold Json.IsExact
        omega
      refine .inl ⟨.length beyond, ?_⟩
      show Json.ofInt items.length = .null
      unfold Json.ofInt
      rw [dif_neg notExact]
    · have exact : Json.IsExact items.length := by
        unfold Json.IsExact
        omega
      refine .inr ⟨fun writes => ?_, Json.kind_ofInt exact⟩
      cases writes with
      | length beyond => contradiction

theorem Shape.kind_decode_object (shape : Shape) {members : List (String × Json)} {value : Json}
    (decodes : shape.decode (.object members) = .ok value) : value.kind = .object := by
  match shape with
  | .any =>
    rw [decode] at decodes
    cases decodes
    rfl
  | .optional inner =>
    rw [decode] at decodes
    · exact inner.kind_decode_object decodes
    · nofun
  | .dictionary values =>
    simp only [decode, bind, Except.bind] at decodes
    split at decodes
    · cases decodes
    · cases decodes
      rfl
  | .record name fields =>
    simp only [decode, bind, Except.bind] at decodes
    split at decodes
    · cases decodes
    · split at decodes
      · cases decodes
      · cases decodes
        rfl
  | .text | .truth | .integer type | .float | .list items =>
    simp only [decode, reduceCtorEq] at decodes

theorem Located.kind_of_toObject {here : Located} {shape : Shape} {value : Json}
    (read : (here.toObject shape.decode).outcome = .ok (some value)) : value.kind = .object := by
  unfold toObject at read
  split at read
  next members =>
    obtain ⟨other, decodes, same⟩ := Logged.outcome_bind_eq_ok_iff.mp read
    cases same
    cases result : shape.decode (.object members) with
    | ok decodedValue =>
      rw [result] at decodes
      cases decodes
      exact shape.kind_decode_object result
    | error mismatch =>
      rw [result] at decodes
      cases decodes
  next => cases read

theorem Target.writesNull_iff {target : Target} {here : Located} {answer : Answer}
    (read : (target.read here).outcome = .ok answer) :
    answer.toJson = .null ↔ target.WritesNull here := by
  cases target with
  | node =>
    cases read
    cases here with
    | missing => exact iff_of_true rfl (.node (.inl rfl))
    | found node =>
      cases node with
      | null => exact iff_of_true rfl (.node (.inr rfl))
      | _ =>
        refine iff_of_false nofun fun writes => ?_
        cases writes with
        | node absent => rcases absent with absent | absent <;> cases absent
  | text =>
    cases read
    have textless := here.toText_eq_none_iff
    cases content : here.toText with
    | none => exact iff_of_true rfl (.text (textless.mp content))
    | some text =>
      refine iff_of_false nofun fun writes => ?_
      cases writes with
      | text kind => cases content.symm.trans (textless.mpr kind)
  | scalar type =>
    rcases ScalarType.written_of_read read with ⟨writes, null⟩ | ⟨otherwise, kind⟩
    · exact iff_of_true null writes
    · refine iff_of_false ?_ otherwise
      intro null
      rw [null] at kind
      cases type <;> cases kind
  | object shape =>
    obtain ⟨decoded, reads, rfl⟩ := Logged.outcome_map_eq_ok_iff.mp read
    have none := (here.decodes_toObject shape.decode).eq_none_iff
    rw [reads] at none
    cases decoded with
    | none => exact iff_of_true rfl (.object (none.mp rfl))
    | some value =>
      have kind := Located.kind_of_toObject reads
      refine iff_of_false ?_ fun writes => ?_
      · rintro (null : value = .null)
        rw [null] at kind
        cases kind
      · cases writes with
        | object other => cases none.mpr other
  | array shape =>
    obtain ⟨decoded, reads, rfl⟩ := Logged.outcome_map_eq_ok_iff.mp read
    have none := (here.decodes_toArray shape.decode).eq_none_iff
    rw [reads] at none
    cases decoded with
    | none => exact iff_of_true rfl (.array (none.mp rfl))
    | some values =>
      refine iff_of_false nofun fun writes => ?_
      cases writes with
      | array other => cases none.mpr other

namespace Command

variable {fileText : String → Except String String} {reader : String → Except String Json}
  {arguments : Arguments}

/-- A run that succeeds prints null for just the nodes that its target writes as null, and every
other scalar as its type says. -/
theorem run_null_iff {line : List String} (accepted : parse? line = some arguments)
    (succeeds : (run fileText reader line).code = 0) :
    ∃ root path here answer, HasDocument fileText reader arguments root ∧
      Path.compile arguments.path = .ok path ∧ (path.evaluate root).outcome = .ok here ∧
      (arguments.target.read here).outcome = .ok answer ∧
      (run fileText reader line).output = answer.toJson.indented ++ "\n" ∧
      ((run fileText reader line).output = "null\n" ↔ arguments.target.WritesNull here) ∧
      ∀ type, arguments.target = .scalar type → ¬arguments.target.WritesNull here →
        answer.toJson.kind = type.writtenKind := by
  have runs : run fileText reader line = execute fileText reader arguments := run_of_parse? accepted
  rw [runs] at succeeds ⊢
  obtain ⟨root, path, here, answer, has, compiled, located, read⟩ :=
    code_execute_eq_zero_iff.mp succeeds
  have output : (execute fileText reader arguments).output = answer.toJson.indented ++ "\n" := by
    rw [execute_of_concludes (.answered has compiled located read)]
    rfl
  refine ⟨root, path, here, answer, has, compiled, located, read, output, ?_, ?_⟩
  · rw [output, Json.indented_append_eq_null_iff]
    exact Target.writesNull_iff read
  · intro type scalar otherwise
    rw [scalar] at read otherwise
    exact ((ScalarType.written_of_read read).resolve_left fun written => otherwise written.1).2

theorem run_past_binary32 :
    run (fun _ => .error "") (Json.read fun _ => "") ["[0]", "[1e39]", "--as", "f32"] =
        ⟨0, "null\n", []⟩ ∧
      ∃ root path here,
        HasDocument (fun _ => .error "") (Json.read fun _ => "")
          ⟨"[0]", some "[1e39]", none, .scalar .float32, 0⟩ root ∧
        Path.compile "[0]" = .ok path ∧ (path.evaluate root).outcome = .ok here ∧
        (Target.scalar .float32).WritesNull here := by
  have accepted : parse? ["[0]", "[1e39]", "--as", "f32"] =
      some ⟨"[0]", some "[1e39]", none, .scalar .float32, 0⟩ := rfl
  have runs : run (fun _ => .error "") (Json.read fun _ => "") ["[0]", "[1e39]", "--as", "f32"] =
      ⟨0, "null\n", []⟩ := by
    decide +kernel
  have succeeds := congrArg Outcome.code runs
  have output := congrArg Outcome.output runs
  obtain ⟨root, path, here, -, has, compiled, located, -, -, null, -⟩ :=
    run_null_iff accepted succeeds
  exact ⟨runs, root, path, here, has, compiled, located, null.mp output⟩

theorem run_not_a_number :
    parse? ["[0]", "[\"NaN\"]", "--as", "f64"] =
        some ⟨"[0]", some "[\"NaN\"]", none, .scalar .float64, 0⟩ ∧
      run (fun _ => .error "") (Json.read fun _ => "") ["[0]", "[\"NaN\"]", "--as", "f64"] =
        ⟨0, "null\n", []⟩ :=
  ⟨rfl, by decide +kernel⟩

end Command

end DotPath
