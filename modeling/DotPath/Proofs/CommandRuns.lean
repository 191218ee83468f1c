import DotPath.Command
import DotPath.Json.Reader
import DotPath.Proofs.StepWalk

/-!
Whole runs of the command.  A run ends at the first stage that fails, or with an answer; what it
leaves behind is its ending, shown in as much detail as was asked for, and how much detail that is
has no part in the ending.
-/

set_option autoImplicit false
set_option relaxedAutoImplicit false

namespace DotPath

/-! Readings by their stages -/

theorem Path.compileLogged_of_error {source : String} {failure : Failure}
    (failed : compile source = .error failure) :
    compileLogged source = ⟨[], .error failure⟩ := by
  unfold compileLogged
  rw [failed]
  rfl

theorem Path.compileLogged_of_ok {source : String} {path : Path}
    (compiled : compile source = .ok path) :
    compileLogged source = ⟨[.compiled source path.segments.length], .ok path⟩ := by
  unfold compileLogged
  rw [compiled]
  rfl

theorem Cache.store_snd_of_room {cache : Cache} {capacity : Nat}
    (bounded : cache.capacity = some capacity) (room : cache.size < capacity) (source : String)
    (path : Path) : (cache.store source path).2 = pure ⟨cache.nextSerial, path⟩ := by
  unfold store
  rw [bounded]
  dsimp only
  rw [if_pos room]

/-- The first request to a cache that has room is answered as without a cache, events included. -/
theorem Cache.extract_withCapacity {capacity : Nat} (room : 0 < capacity) (root : Json)
    (source : String) (target : Target) :
    ((withCapacity capacity).extract root source target).2 = readAt root source target := by
  have fresh : ((withCapacity capacity).compiled source).2 =
      (fun path => (⟨0, path⟩ : Compilation)) <$> Path.compileLogged source := by
    have kept : (withCapacity capacity).entries.lookup source = none := rfl
    unfold compiled
    rw [kept]
    cases compiles : Path.compile source with
    | error failure =>
      rw [Path.compileLogged_of_error compiles]
      rfl
    | ok path =>
      have stored : ((withCapacity capacity).store source path).2 = pure ⟨0, path⟩ :=
        store_snd_of_room rfl room source path
      rw [Path.compileLogged_of_ok compiles]
      simp only [stored]
      rfl
  unfold extract Cache.locate readAt DotPath.locate
  simp only [fresh, bind_map_left]

section Stages

variable {root : Json} {source : String} {path : Path}

theorem readAt_of_compile_error {failure : Failure}
    (failed : Path.compile source = .error failure) (target : Target) :
    readAt root source target = ⟨[], .error failure⟩ := by
  unfold readAt locate
  rw [Path.compileLogged_of_error failed]
  rfl

theorem readAt_of_compile_ok (compiled : Path.compile source = .ok path) (target : Target) :
    readAt root source target =
      ⟨.compiled source path.segments.length :: (path.evaluate root >>= target.read).events,
        (path.evaluate root >>= target.read).outcome⟩ := by
  unfold readAt locate
  rw [Path.compileLogged_of_ok compiled, bind_assoc]
  rfl

end Stages

namespace Command

/-! Asking for more detail -/

namespace Progress

def louder (count : Nat) (p : Progress) : Progress :=
  { p with verbosity := p.verbosity + count }

variable (count : Nat) (p : Progress)

theorem positional_louder (argument : String) :
    (p.louder count).positional argument = (p.positional argument).map (louder count) := by
  unfold positional
  by_cases room : p.positionals.length < 2
  · have same : (p.louder count).positionals.length < 2 := room
    rw [if_pos room, if_pos same]
    rfl
  · have same : ¬(p.louder count).positionals.length < 2 := room
    rw [if_neg room, if_neg same]
    rfl

theorem option_louder (pending : ValueOption) (value : String) :
    (p.louder count).option pending value = (p.option pending value).map (louder count) := by
  cases pending with
  | file =>
    simp only [option]
    by_cases refused : p.file.isSome ∨ value.isEmpty
    · have same : (p.louder count).file.isSome ∨ value.isEmpty := refused
      rw [if_pos refused, if_pos same]
      rfl
    · have same : ¬((p.louder count).file.isSome ∨ value.isEmpty) := refused
      rw [if_neg refused, if_neg same]
      rfl
  | target =>
    simp only [option]
    by_cases refused : p.target.isSome
    · have same : (p.louder count).target.isSome := refused
      rw [if_pos refused, if_pos same]
      rfl
    · have same : ¬(p.louder count).target.isSome := refused
      rw [if_neg refused, if_neg same, Option.map_map]
      rfl

theorem letters_louder (text : List Char) :
    (p.louder count).letters text = (p.letters text).map fun taken =>
      (taken.1.louder count, taken.2) := by
  fun_induction letters p text with
  | case1 p => rfl
  | case2 p rest ih =>
    rw [← ih]
    simp only [letters, louder, Nat.add_right_comm]
  | case3 p => rfl
  | case4 p rest =>
    simp only [letters, option_louder, Option.map_map]
    rfl
  | case5 p rest notLast noSign =>
    rw [letters]
    · simp only [option_louder, Option.map_map]
      rfl
    · exact notLast
    · exact noSign
  | case6 text p =>
    -- None of the forms above, with any verbosity.
    rw [letters]
    · rfl
    all_goals assumption

theorem long_louder (text : List Char) :
    (p.louder count).long text = (p.long text).map fun taken =>
      (taken.1.louder count, taken.2) := by
  unfold long
  split
  next name h =>
    split
    next verbose => simp only [Option.map_some, louder, Nat.add_right_comm]
    next other =>
      rw [Option.map_map]
      rfl
  next name value h =>
    cases longOptions.lookup name with
    | none => rfl
    | some pending =>
      simp only [Option.bind_eq_bind, Option.bind_some, option_louder]
      cases p.option pending (String.ofList value) with
      | none => rfl
      | some next => rfl

theorem foldlM_positional_louder (line : List String) :
    line.foldlM positional (p.louder count) = (line.foldlM positional p).map (louder count) := by
  induction line generalizing p with
  | nil => rfl
  | cons argument rest ih =>
    rw [List.foldlM_cons, List.foldlM_cons, positional_louder]
    cases p.positional argument with
    | none => rfl
    | some next => exact ih next

theorem takeAll_louder (pending : Option ValueOption) (line : List String) :
    (p.louder count).takeAll pending line = (p.takeAll pending line).map (louder count) := by
  induction line generalizing p pending with
  | nil => cases pending <;> rfl
  | cons argument rest ih =>
    cases pending with
    | some pending =>
      simp only [takeAll]
      split
      · rfl
      · rw [option_louder]
        cases p.option pending argument with
        | none => rfl
        | some next => exact ih next none
    | none =>
      unfold takeAll
      split
      · exact foldlM_positional_louder count p rest
      · rw [long_louder]
        cases p.long _ with
        | none => rfl
        | some taken => exact ih taken.1 taken.2
      · rw [letters_louder]
        cases p.letters _ with
        | none => rfl
        | some taken => exact ih taken.1 taken.2
      · rw [positional_louder]
        cases p.positional argument with
        | none => rfl
        | some next => exact ih next none

theorem finish?_louder :
    (p.louder count).finish? = p.finish?.map fun arguments =>
      { arguments with verbosity := arguments.verbosity + count } := by
  unfold finish? louder
  cases p.positionals with
  | nil => rfl
  | cons path rest => rfl

end Progress

theorem parse?_cons_verbose (line : List String) :
    parse? ("-v" :: line) = (parse? line).map fun arguments =>
      { arguments with verbosity := arguments.verbosity + 1 } := by
  have first : Progress.takeAll {} none ("-v" :: line) =
      (Progress.louder 1 {}).takeAll none line := rfl
  unfold parse?
  rw [first, Progress.takeAll_louder]
  cases Progress.takeAll {} none line with
  | none => rfl
  | some taken => exact Progress.finish?_louder 1 taken

theorem parse?_replicate_verbose {line : List String} {arguments : Arguments}
    (accepted : parse? line = some arguments) (count : Nat) :
    parse? (List.replicate count "-v" ++ line) =
      some { arguments with verbosity := arguments.verbosity + count } := by
  induction count with
  | zero => exact accepted
  | succ count ih =>
    rw [List.replicate_succ, List.cons_append, parse?_cons_verbose, ih]
    rfl

theorem targets_no_dash {name : String} {target : Target}
    (listed : targets.lookup name = some target) : name.toList.head? ≠ some '-' := by
  have all : ∀ other ∈ targets.map Prod.fst, other.toList.head? ≠ some '-' := by decide
  obtain ⟨before, after, split, -⟩ := List.lookup_eq_some_iff.mp listed
  apply all
  rw [split]
  simp

/-- Every path and every document can be given, with every target, whatever characters they have. -/
theorem parse?_ordinary {name : String} {target : Target}
    (listed : targets.lookup name = some target) (path text : String) :
    parse? ["--as", name, "--", path, text] = some ⟨path, some text, none, target, 0⟩ := by
  have named : Progress.option {} .target name = some { target := some target } := by
    simp [Progress.option, listed]
  have taken : Progress.takeAll {} (some .target) [name, "--", path, text] =
      some { positionals := [path, text], target := some target } := by
    have free : ¬(name.toList.head? = some '-' ∧ name ≠ "-") := by
      rintro ⟨dash, -⟩
      exact targets_no_dash listed dash
    rw [Progress.takeAll, if_neg free, named]
    rfl
  have first : Progress.takeAll {} none ["--as", name, "--", path, text] =
      Progress.takeAll {} (some .target) [name, "--", path, text] := rfl
  unfold parse?
  rw [first, taken]
  rfl

/-! What a verbosity shows -/

def isDebugLine (line : String) : Bool :=
  "DEBUG ".toList.isPrefixOf line.toList

theorem isDebugLine_line (event : Event) :
    isDebugLine event.line = (event.level == .debug) := by
  have start : event.line.toList =
      event.level.name.toList ++ ' ' :: (event.origin ++ ": " ++ event.words).toList := by
    simp [Event.line, String.toList_append]
  unfold isDebugLine
  rw [start]
  cases event.level with
  | debug => rfl
  | trace => rfl

theorem shows_of_two_le {verbosity : Nat} (most : 2 ≤ verbosity) (event : Event) :
    shows verbosity event = true := by
  unfold shows
  cases event.level with
  | debug => simpa using Nat.le_of_succ_le most
  | trace => simpa using most

theorem shows_one (event : Event) : shows 1 event = (event.level == .debug) := by
  unfold shows
  cases event.level with
  | debug => rfl
  | trace => rfl

theorem filter_isDebugLine_logLines {verbosity : Nat} (most : 2 ≤ verbosity)
    (events : List Event) :
    (logLines verbosity events).filter isDebugLine = logLines 1 events := by
  unfold logLines
  have all : events.filter (shows verbosity) = events :=
    List.filter_eq_self.mpr fun event _ => shows_of_two_le most event
  have same : isDebugLine ∘ Event.line = shows 1 := by
    funext event
    exact (isDebugLine_line event).trans (shows_one event).symm
  rw [all, List.filter_map, same]

/-! Endings -/

/-- The document text that the arguments name: that of the file, if there is one, and otherwise the
argument. -/
inductive HasText (fileText : String → Except String String) (arguments : Arguments) :
    String → Prop
  | file {file text : String} (named : arguments.file = some file)
      (readable : fileText file = .ok text) : HasText fileText arguments text
  | argument {text : String} (noFile : arguments.file = none)
      (given : arguments.document = some text) : HasText fileText arguments text

/-- The document that the arguments name, by any reader of documents. -/
def HasDocument (fileText : String → Except String String) (reader : String → Except String Json)
    (arguments : Arguments) (root : Json) : Prop :=
  ∃ text, HasText fileText arguments text ∧ reader text = .ok root

/-- How a run ends: with a message of refusal or with an answer, behind the events on the way. -/
inductive Ending where
  | refused (events : List Event) (message : String)
  | answered (events : List Event) (answer : Answer)

namespace Ending

def events : Ending → List Event
  | refused events _ => events
  | answered events _ => events

def ofReading (reading : Logged Answer) : Ending :=
  match reading.outcome with
  | .ok answer => answered reading.events answer
  | .error failure => refused reading.events failure.message

/-- What a run with the ending leaves behind.  A refusal prints nothing, and its message is the last
line that is reported; an answer is printed, and nothing is reported but the log. -/
def outcome (verbosity : Nat) : Ending → Outcome
  | refused events message => ⟨1, "", logLines verbosity events ++ [message]⟩
  | answered events answer =>
      ⟨0, answer.toJson.indented ++ "\n", logLines verbosity events⟩

end Ending

/-- The ending of a run, by its stages: the text of the document, its syntax, the path, the walk and
the reading.  The first stage that fails gives the message, with the cause that the files or the
reader of documents give.  The verbosity has no part in it. -/
inductive Concludes (fileText : String → Except String String)
    (reader : String → Except String Json) (arguments : Arguments) : Ending → Prop
  | unreadable {file cause : String} (named : arguments.file = some file)
      (failed : fileText file = .error cause) :
      Concludes fileText reader arguments (.refused [] ("Cannot read " ++ file ++ ": " ++ cause))
  | noText (noFile : arguments.file = none) (noArgument : arguments.document = none) :
      Concludes fileText reader arguments
        (.refused [] "Either a JSON argument or --file is required")
  | invalid {text cause : String} (has : HasText fileText arguments text)
      (failed : reader text = .error cause) :
      Concludes fileText reader arguments (.refused [] ("Invalid JSON: " ++ cause))
  | notCompiled {root : Json} {failure : Failure} (has : HasDocument fileText reader arguments root)
      (failed : Path.compile arguments.path = .error failure) :
      Concludes fileText reader arguments (.refused [] failure.message)
  | notLocated {root : Json} {path : Path} {failure : Failure}
      (has : HasDocument fileText reader arguments root)
      (compiled : Path.compile arguments.path = .ok path)
      (failed : (path.evaluate root).outcome = .error failure) :
      Concludes fileText reader arguments
        (.refused
          (.compiled arguments.path path.segments.length :: (path.evaluate root).events)
          failure.message)
  | notRead {root : Json} {path : Path} {here : Located} {failure : Failure}
      (has : HasDocument fileText reader arguments root)
      (compiled : Path.compile arguments.path = .ok path)
      (located : (path.evaluate root).outcome = .ok here)
      (failed : (arguments.target.read here).outcome = .error failure) :
      Concludes fileText reader arguments
        (.refused
          (.compiled arguments.path path.segments.length ::
            ((path.evaluate root).events ++ (arguments.target.read here).events))
          failure.message)
  | answered {root : Json} {path : Path} {here : Located} {answer : Answer}
      (has : HasDocument fileText reader arguments root)
      (compiled : Path.compile arguments.path = .ok path)
      (located : (path.evaluate root).outcome = .ok here)
      (read : (arguments.target.read here).outcome = .ok answer) :
      Concludes fileText reader arguments
        (.answered
          (.compiled arguments.path path.segments.length ::
            ((path.evaluate root).events ++ (arguments.target.read here).events))
          answer)

section Runs

variable {fileText : String → Except String String} {reader : String → Except String Json}
  {arguments : Arguments}

theorem documentText_of_hasText {text : String} (has : HasText fileText arguments text) :
    documentText fileText arguments = .ok text := by
  unfold documentText
  cases has with
  | file named readable => simp only [named, readable]
  | argument noFile given => simp only [noFile, given]

theorem document_of_hasDocument {root : Json} (has : HasDocument fileText reader arguments root) :
    document fileText reader arguments = .ok root := by
  obtain ⟨text, has, parsed⟩ := has
  unfold document
  rw [documentText_of_hasText has]
  simp only [Except.bind, bind, parsed]
  rfl

theorem execute_of_document_error {message : String}
    (failed : document fileText reader arguments = .error message) :
    execute fileText reader arguments = ⟨1, "", [message]⟩ := by
  unfold execute
  rw [failed]

theorem execute_of_document {root : Json} (has : HasDocument fileText reader arguments root) :
    execute fileText reader arguments =
      (Ending.ofReading (readAt root arguments.path arguments.target)).outcome
        arguments.verbosity := by
  unfold execute Ending.ofReading
  rw [document_of_hasDocument has]
  simp only [Cache.extract_withCapacity (by decide : 0 < Cache.defaultCapacity)]
  cases (readAt root arguments.path arguments.target).outcome with
  | error failure => rfl
  | ok answer => rfl

theorem execute_of_concludes {ending : Ending}
    (concludes : Concludes fileText reader arguments ending) :
    execute fileText reader arguments = ending.outcome arguments.verbosity := by
  cases concludes with
  | unreadable named failed =>
    apply execute_of_document_error
    unfold document documentText
    simp only [named, failed]
    rfl
  | noText noFile noArgument =>
    apply execute_of_document_error
    unfold document documentText
    simp only [noFile, noArgument]
    rfl
  | invalid has failed =>
    apply execute_of_document_error
    unfold document
    rw [documentText_of_hasText has]
    simp only [Except.bind, bind, failed]
    rfl
  | notCompiled has failed =>
    rw [execute_of_document has, readAt_of_compile_error failed]
    rfl
  | notLocated has compiled failed =>
    rw [execute_of_document has, readAt_of_compile_ok compiled, Logged.bind_of_error failed]
    rfl
  | notRead has compiled located failed =>
    rw [execute_of_document has, readAt_of_compile_ok compiled, Logged.bind_of_ok located]
    simp only [Ending.ofReading, failed]
  | answered has compiled located read =>
    rw [execute_of_document has, readAt_of_compile_ok compiled, Logged.bind_of_ok located]
    simp only [Ending.ofReading, read]

theorem exists_concludes_of_hasDocument {root : Json}
    (has : HasDocument fileText reader arguments root) :
    ∃ ending, Concludes fileText reader arguments ending := by
  cases compiles : Path.compile arguments.path with
  | error failure => exact ⟨_, .notCompiled has compiles⟩
  | ok path =>
    cases locates : (path.evaluate root).outcome with
    | error failure => exact ⟨_, .notLocated has compiles locates⟩
    | ok here =>
      cases reads : (arguments.target.read here).outcome with
      | error failure => exact ⟨_, .notRead has compiles locates reads⟩
      | ok answer => exact ⟨_, .answered has compiles locates reads⟩

theorem exists_concludes (fileText : String → Except String String)
    (reader : String → Except String Json) (arguments : Arguments) :
    ∃ ending, Concludes fileText reader arguments ending := by
  have ofText : ∀ {text}, HasText fileText arguments text →
      ∃ ending, Concludes fileText reader arguments ending := by
    intro text has
    cases reads : reader text with
    | error cause => exact ⟨_, .invalid has reads⟩
    | ok root => exact exists_concludes_of_hasDocument ⟨text, has, reads⟩
  cases named : arguments.file with
  | some file =>
    cases reads : fileText file with
    | error cause => exact ⟨_, .unreadable named reads⟩
    | ok text => exact ofText (.file named reads)
  | none =>
    cases given : arguments.document with
    | none => exact ⟨_, .noText named given⟩
    | some text => exact ofText (.argument named given)

/-! Only the file and the document argument have a part in what the document is. -/

theorem HasText.of_same {other : Arguments} {text : String} (has : HasText fileText arguments text)
    (file : other.file = arguments.file) (document : other.document = arguments.document) :
    HasText fileText other text := by
  cases has with
  | file named readable => exact .file (file.trans named) readable
  | argument noFile given => exact .argument (file.trans noFile) (document.trans given)

theorem HasDocument.of_same {other : Arguments} {root : Json}
    (has : HasDocument fileText reader arguments root) (file : other.file = arguments.file)
    (document : other.document = arguments.document) :
    HasDocument fileText reader other root := by
  obtain ⟨text, has, parsed⟩ := has
  exact ⟨text, has.of_same file document, parsed⟩

theorem Concludes.withVerbosity {ending : Ending}
    (concludes : Concludes fileText reader arguments ending) (verbosity : Nat) :
    Concludes fileText reader { arguments with verbosity } ending := by
  cases concludes with
  | unreadable named failed => exact .unreadable named failed
  | noText noFile noArgument => exact .noText noFile noArgument
  | invalid has failed => exact .invalid (has.of_same rfl rfl) failed
  | notCompiled has failed => exact .notCompiled (has.of_same rfl rfl) failed
  | notLocated has compiled failed =>
    exact .notLocated (has.of_same rfl rfl) compiled failed
  | notRead has compiled located failed =>
    exact .notRead (has.of_same rfl rfl) compiled located failed
  | answered has compiled located read =>
    exact .answered (has.of_same rfl rfl) compiled located read

theorem run_of_parse? {line : List String} (accepted : parse? line = some arguments) :
    run fileText reader line = execute fileText reader arguments := by
  unfold run
  rw [accepted]

theorem code_execute_eq_zero_iff :
    (execute fileText reader arguments).code = 0 ↔
      ∃ root path here answer, HasDocument fileText reader arguments root ∧
        Path.compile arguments.path = .ok path ∧ (path.evaluate root).outcome = .ok here ∧
        (arguments.target.read here).outcome = .ok answer := by
  constructor
  · intro succeeds
    obtain ⟨ending, concludes⟩ := exists_concludes fileText reader arguments
    rw [execute_of_concludes concludes] at succeeds
    cases concludes with
    | answered has compiled located read =>
      exact ⟨_, _, _, _, has, compiled, located, read⟩
    | _ => cases succeeds
  · rintro ⟨root, path, here, answer, has, compiled, located, read⟩
    rw [execute_of_concludes (.answered has compiled located read)]
    rfl

/-- Every accepted command line is the library with exact streams, whatever reader the documents
have.  The exit code is zero exactly if
every stage succeeds; the run has an ending, which is its first failing stage or its answer, and
leaves behind exactly what the ending says.  Any other line with the same arguments but for the
verbosity has the same ending, and so has the line with more detail asked for in front; at full
detail the lines of level debug are those that the first level of detail shows. -/
theorem run_exact {line : List String} (accepted : parse? line = some arguments) :
    ((run fileText reader line).code = 0 ↔
        ∃ root path here answer, HasDocument fileText reader arguments root ∧
          Path.compile arguments.path = .ok path ∧ (path.evaluate root).outcome = .ok here ∧
          (arguments.target.read here).outcome = .ok answer) ∧
      (∃ ending, Concludes fileText reader arguments ending) ∧
      ∀ ending, Concludes fileText reader arguments ending →
        run fileText reader line = ending.outcome arguments.verbosity ∧
          (∀ verbosity other, parse? other = some { arguments with verbosity } →
            run fileText reader other = ending.outcome verbosity) ∧
          (∀ count, run fileText reader (List.replicate count "-v" ++ line) =
            ending.outcome (arguments.verbosity + count)) ∧
          ∀ verbosity, 2 ≤ verbosity →
            (logLines verbosity ending.events).filter isDebugLine = logLines 1 ending.events := by
  have runs : run fileText reader line = execute fileText reader arguments := run_of_parse? accepted
  refine ⟨?_, exists_concludes fileText reader arguments, ?_⟩
  · rw [runs]
    exact code_execute_eq_zero_iff
  · intro ending concludes
    have same : ∀ verbosity other, parse? other = some { arguments with verbosity } →
        run fileText reader other = ending.outcome verbosity := by
      intro verbosity other accepted
      rw [run_of_parse? accepted]
      exact execute_of_concludes (concludes.withVerbosity verbosity)
    refine ⟨same arguments.verbosity line accepted, same, ?_, ?_⟩
    · intro count
      exact same _ _ (parse?_replicate_verbose accepted count)
    · intro verbosity most
      exact filter_isDebugLine_logLines most ending.events

end Runs

/-- A walk past the end of an array, at full detail: the file goes before the argument, and the line
for the step and the line for the failed position are shown in front of the message. -/
theorem run_past_last_item :
    parse? ["[2]", "[]", "-f", "d"] = some ⟨"[2]", some "[]", some "d", .node, 0⟩ ∧
      run (fun _ => .ok "[7]") (Json.read fun _ => "")
          (List.replicate 2 "-v" ++ ["[2]", "[]", "-f", "d"]) =
        ⟨1, "",
          [ "TRACE json_endpointer::path: compiled path path=\"[2]\" segments=1",
            "TRACE json_endpointer::evaluator: step segment=[2] kind=array",
            "DEBUG json_endpointer::evaluator: array index not found path=\"[2]\" index=2 len=1",
            "not found array index 2 (length 1) for json key: [2]" ]⟩ := by
  have accepted : parse? ["[2]", "[]", "-f", "d"] =
      some ⟨"[2]", some "[]", some "d", .node, 0⟩ := rfl
  have document : HasDocument (fun _ => .ok "[7]") (Json.read fun _ => "")
      ⟨"[2]", some "[]", some "d", .node, 0⟩ (.array [.number (.integer 7 (by decide))]) :=
    ⟨"[7]", .file rfl rfl, rfl⟩
  have compiled : Path.compile "[2]" = .ok ⟨"[2]", [.indexed "" [2]]⟩ := rfl
  have runs := ((run_exact accepted).2.2 _ (.notLocated document compiled rfl)).2.2.1 2
  refine ⟨accepted, runs.trans ?_⟩
  decide +kernel

/-! A text that is no document ends with the words of its reader, and the path is not looked at. -/

example :
    run (fun _ => .error "") (Json.read fun _ => "EOF while parsing a list at line 1 column 1")
        ["a[", "["] =
      ⟨1, "", ["Invalid JSON: EOF while parsing a list at line 1 column 1"]⟩ := by
  decide +kernel

end Command

end DotPath
