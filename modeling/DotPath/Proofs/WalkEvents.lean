import DotPath.Proofs.FailureEvents
import DotPath.Proofs.StepWalk

/-!
The log of a walk.  Every segment that is entered is told of with the kind of the node that it is
entered at.  The first member that is not there is told of, and from then on every node is missing
and no further member is told of.  A position that is not there is told of last of all, exactly if
the walk fails.
-/

set_option autoImplicit false
set_option relaxedAutoImplicit false

namespace DotPath

/-! Classes of events -/

namespace Event

def isStep : Event → Bool
  | .step .. => true
  | _ => false

def isFieldMiss : Event → Bool
  | .fieldAbsent _ | .fieldOnScalar .. => true
  | _ => false

def isIndexMiss : Event → Bool
  | .indexNotFound .. => true
  | _ => false

@[simp]
theorem isStep_step (segment : Segment) (kind : Kind) : (Event.step segment kind).isStep = true :=
  rfl

@[simp]
theorem isFieldMiss_step (segment : Segment) (kind : Kind) :
    (Event.step segment kind).isFieldMiss = false :=
  rfl

@[simp]
theorem isFieldMiss_indexNotFound (path : String) (index length : Nat) :
    (Event.indexNotFound path index length).isFieldMiss = false :=
  rfl

/-- Events of a walk that goes on from a missing node: no member is told of any more, and segments
are entered at missing nodes. -/
def FromMissing (event : Event) : Prop :=
  event.isFieldMiss = false ∧ ∀ segment kind, event = .step segment kind → kind = .missing

end Event

/-! Single moves -/

/-- A move of a walk: into a segment, which only the log shows, or along a step. -/
inductive Move where
  | enter (segment : Segment)
  | along (step : Step)

def Move.step? : Move → Option Step
  | .enter _ => none
  | .along step => some step

@[simp]
theorem Move.step?_enter (segment : Segment) : (Move.enter segment).step? = none :=
  rfl

@[simp]
theorem Move.step?_along (step : Step) : (Move.along step).step? = some step :=
  rfl

def Segment.moves (segment : Segment) : List Move :=
  .enter segment :: segment.steps.map .along

namespace Located

theorem found_ne_missing (node : Json) : found node ≠ missing :=
  nofun

def move (source : String) (here : Located) : Move → Logged Located
  | .enter segment => do
      Logged.note (.step segment here.kind)
      pure here
  | .along (.key name) => here.field name
  | .along (.index index) => here.element source index

def walk (source : String) : Located → List Move → Logged Located
  | here, [] => pure here
  | here, next :: rest => do
      let there ← here.move source next
      there.walk source rest

theorem walk_append (source : String) (here : Located) (first second : List Move) :
    here.walk source (first ++ second) =
      here.walk source first >>= fun there => there.walk source second := by
  induction first generalizing here with
  | nil => simp [walk]
  | cons next rest ih => simp [walk, ih]

/-- What a move can do.  Only the first member that is not there has an event, and only a position
that is not there fails. -/
inductive Moved (source : String) (here : Located) : Move → Logged Located → Prop
  | entered (segment : Segment) :
      Moved source here (.enter segment) ⟨[.step segment here.kind], .ok here⟩
  | reached {step : Step} {node : Json}
      (there : here.follow source [step] = .ok (.found node)) :
      Moved source here (.along step) ⟨[], .ok (.found node)⟩
  | lost {name : String} {event : Event} (found : here ≠ .missing)
      (absent : here.member name = .missing) (miss : event.isFieldMiss = true) :
      Moved source here (.along (.key name)) ⟨[event], .ok .missing⟩
  | stayed {name : String} (missing : here = .missing) :
      Moved source here (.along (.key name)) ⟨[], .ok .missing⟩
  | failed {index : Nat} (beyond : here.items[index]? = none) :
      Moved source here (.along (.index index))
        ⟨[.indexNotFound source index here.items.length],
          .error (.indexNotFound source index here.items.length)⟩

theorem moved (source : String) (here : Located) (next : Move) :
    Moved source here next (here.move source next) := by
  cases next with
  | enter segment => exact .entered segment
  | along step =>
    cases step with
    | key name =>
      cases here with
      | missing => exact .stayed rfl
      | found node =>
        cases node with
        | object members =>
          simp only [move, field]
          cases member : Json.member? name members with
          | some node =>
            refine .reached ?_
            simp [follow, Located.member, node?, Json.child?, member]
          | none =>
            refine .lost (found_ne_missing _) ?_ rfl
            simp [Located.member, node?, Json.child?, member]
        | _ => exact .lost (found_ne_missing _) rfl rfl
    | index index =>
      simp only [move, element]
      cases item : here.items[index]? with
      | some node =>
        refine .reached ?_
        simp [follow, item]
      | none => exact .failed item

end Located

/-- The two loops of a walk, over segments and over the positions of each, are one loop over
moves. -/
theorem Segment.walk_eq_walk (source : String) (here : Located) (segment : Segment) :
    segment.walk source here = here.walk source (segment.steps.map .along) := by
  have elements (here : Located) (indices : List Nat) :
      Located.elements source here indices =
        here.walk source (indices.map fun index => .along (.index index)) := by
    induction indices generalizing here with
    | nil => rfl
    | cons index rest ih =>
      simp only [Located.elements, List.map_cons, Located.walk, ih]
      rfl
  cases segment with
  | field name =>
    simp [Segment.walk, Segment.steps, Located.walk, Located.move]
  | indexed name indices =>
    simp only [Segment.walk, Segment.steps, List.map_append, List.map_map, Located.walk_append,
      elements]
    split
    · simp [Located.walk, Function.comp_def]
    · simp [Located.walk, Located.move, Function.comp_def]

theorem walkSegments_eq_walk (source : String) (segments : List Segment) (here : Located) :
    walkSegments source segments here = here.walk source (segments.flatMap Segment.moves) := by
  induction segments generalizing here with
  | nil => rfl
  | cons segment rest ih =>
    simp only [walkSegments, List.flatMap_cons, Segment.moves, List.cons_append, Located.walk,
      Located.walk_append, Located.move, Segment.walk_eq_walk, ih, bind_assoc, pure_bind]

/-! What a move and a walk do to the log -/

namespace Located

variable {source : String} {here : Located} {next : Move} {result : Logged Located} {event : Event}

namespace Moved

theorem class_of_mem (moved : Moved source here next result) (member : event ∈ result.events) :
    event.isStep = true ∨ event.isFieldMiss = true ∨ event.isIndexMiss = true := by
  cases moved with
  | entered segment => exact .inl (List.mem_singleton.mp member ▸ rfl)
  | lost found absent miss => exact .inr (.inl (List.mem_singleton.mp member ▸ miss))
  | failed beyond => exact .inr (.inr (List.mem_singleton.mp member ▸ rfl))
  | reached there => exact absurd member List.not_mem_nil
  | stayed missing => exact absurd member List.not_mem_nil

theorem tells (moved : Moved source here next result) : result.Tells Event.isIndexMiss := by
  cases moved with
  | entered segment => exact .value (by simp [Event.isIndexMiss])
  | @lost name event found absent miss =>
    refine .value (List.forall_mem_singleton.mpr ?_)
    cases event with
    | indexNotFound path index length => cases miss
    | _ => rfl
  | failed beyond => exact .failing rfl rfl
  | reached there => exact .pure _
  | stayed missing => exact .pure _

theorem fromMissing (moved : Moved source .missing next result) :
    (∀ event ∈ result.events, event.FromMissing) ∧
      ∀ there, result.outcome = .ok there → there = .missing := by
  cases moved with
  | entered segment =>
    refine ⟨List.forall_mem_singleton.mpr ⟨rfl, ?_⟩, ?_⟩
    · rintro _ _ ⟨⟩
      rfl
    · rintro _ ⟨⟩
      rfl
  | @reached step node there =>
    cases step with
    | key name => cases there
    | index index => simp [follow, items] at there
  | lost found absent miss => exact absurd rfl found
  | stayed missing =>
    refine ⟨List.forall_mem_nil _, ?_⟩
    rintro _ ⟨⟩
    rfl
  | failed beyond =>
    refine ⟨List.forall_mem_singleton.mpr ⟨rfl, ?_⟩, ?_⟩
    · rintro _ _ ⟨⟩
    · rintro _ ⟨⟩

theorem eq_missing_of_fieldMiss (moved : Moved source here next result)
    (member : event ∈ result.events) (miss : event.isFieldMiss = true) {there : Located}
    (arrives : result.outcome = .ok there) : there = .missing := by
  cases moved with
  | entered segment =>
    rw [List.mem_singleton.mp member] at miss
    cases miss
  | lost found absent isMiss =>
    cases arrives
    rfl
  | failed beyond => cases arrives
  | reached there => exact absurd member List.not_mem_nil
  | stayed missing => exact absurd member List.not_mem_nil

theorem pairwise (moved : Moved source here next result) (R : Event → Event → Prop) :
    result.events.Pairwise R := by
  cases moved with
  | reached there => exact .nil
  | stayed missing => exact .nil
  | _ => exact List.pairwise_singleton R _

end Moved

theorem class_of_mem_walk {moves : List Move} (member : event ∈ (here.walk source moves).events) :
    event.isStep = true ∨ event.isFieldMiss = true ∨ event.isIndexMiss = true := by
  induction moves generalizing here with
  | nil => exact absurd member List.not_mem_nil
  | cons next rest ih =>
    rcases Logged.mem_events_bind.mp member with now | ⟨there, -, later⟩
    · exact (here.moved source next).class_of_mem now
    · exact ih later

theorem tells_walk (source : String) (here : Located) (moves : List Move) :
    (here.walk source moves).Tells Event.isIndexMiss := by
  induction moves generalizing here with
  | nil => exact .pure here
  | cons next rest ih => exact (here.moved source next).tells.bind fun there => ih there

theorem fromMissing_of_mem_walk {moves : List Move}
    (member : event ∈ (missing.walk source moves).events) : event.FromMissing := by
  induction moves with
  | nil => exact absurd member List.not_mem_nil
  | cons next rest ih =>
    obtain ⟨events, stays⟩ := (missing.moved source next).fromMissing
    rcases Logged.mem_events_bind.mp member with now | ⟨there, arrives, later⟩
    · exact events event now
    · rw [stays there arrives] at later
      exact ih later

/-- Behind the event of a member that is not there, a walk goes on from a missing node. -/
theorem pairwise_walk (source : String) (here : Located) (moves : List Move) :
    (here.walk source moves).events.Pairwise fun earlier later =>
      earlier.isFieldMiss = true → later.FromMissing := by
  induction moves generalizing here with
  | nil => exact .nil
  | cons next rest ih =>
    have moved := here.moved source next
    refine Logged.pairwise_events_bind (moved.pairwise _) ih ?_
    intro there arrives earlier now later after miss
    rw [moved.eq_missing_of_fieldMiss now miss arrives] at after
    exact fromMissing_of_mem_walk after

/-- Steps on which a walk comes to be at a missing node, at their end or before. -/
def Loses (source : String) (here : Located) (steps : List Step) : Prop :=
  ∃ before, before <+: steps ∧ here.follow source before = .ok .missing

theorem not_loses_nil (found : here ≠ .missing) : ¬here.Loses source [] := by
  rintro ⟨before, beginning, lost⟩
  rw [List.prefix_nil.mp beginning] at lost
  exact found (Except.ok.inj lost)

theorem loses_cons_iff {step : Step} {rest : List Step} (found : here ≠ .missing) :
    here.Loses source (step :: rest) ↔
      ∃ there, here.follow source [step] = .ok there ∧ there.Loses source rest := by
  have on (before : List Step) : here.follow source (step :: before) =
      (here.follow source [step]).bind fun there => there.follow source before :=
    follow_append source here [step] before
  constructor
  · rintro ⟨before, beginning, lost⟩
    cases before with
    | nil => exact absurd (Except.ok.inj lost) found
    | cons first before =>
      obtain ⟨same, beginning⟩ := List.cons_prefix_cons.mp beginning
      rw [same, on] at lost
      cases first_step : here.follow source [step] with
      | ok there =>
        rw [first_step] at lost
        exact ⟨there, rfl, before, beginning, lost⟩
      | error failure =>
        rw [first_step] at lost
        cases lost
  · rintro ⟨there, first_step, before, beginning, lost⟩
    refine ⟨step :: before, List.cons_prefix_cons.mpr ⟨rfl, beginning⟩, ?_⟩
    rw [on, first_step]
    exact lost

theorem exists_fieldMiss_iff {moves : List Move} (found : here ≠ .missing) :
    (∃ event ∈ (here.walk source moves).events, event.isFieldMiss = true) ↔
      here.Loses source (moves.filterMap Move.step?) := by
  induction moves generalizing here with
  | nil => exact iff_of_false (by simp [walk]) (not_loses_nil found)
  | cons next rest ih =>
    have moved := here.moved source next
    have events : ∀ event, event ∈ (here.walk source (next :: rest)).events ↔ _ := fun _ =>
      Logged.mem_events_bind
    simp only [events]
    clear events
    generalize here.move source next = result at moved ⊢
    cases moved with
    | entered segment => simpa [List.filterMap_cons] using ih found
    | @reached step node there =>
      have from_node := ih (found_ne_missing node)
      simpa [loses_cons_iff found, there] using from_node
    | @lost name event _ absent miss =>
      refine iff_of_true ⟨event, .inl (List.mem_singleton_self event), miss⟩ ?_
      refine (loses_cons_iff found).mpr ⟨.missing, ?_, [], List.nil_prefix, rfl⟩
      simp [follow, absent]
    | stayed missing => exact absurd missing found
    | failed beyond => simp [loses_cons_iff found, follow, beyond]

end Located

/-! The segments that a walk enters -/

section Steps

variable {source : String} {segments : List Segment} {here : Located} {event : Event}

theorem filterMap_step?_moves (segments : List Segment) :
    (segments.flatMap Segment.moves).filterMap Move.step? = segments.flatMap Segment.steps := by
  induction segments with
  | nil => rfl
  | cons segment rest ih =>
    simp [Segment.moves, ih, List.filterMap_cons, List.filterMap_map, Function.comp_def]

private theorem isStep_of_mem_alongSteps {steps : List Step}
    (member : event ∈ (here.walk source (steps.map .along)).events) : event.isStep = false := by
  induction steps generalizing here with
  | nil => exact absurd member List.not_mem_nil
  | cons step rest ih =>
    rcases Logged.mem_events_bind.mp member with now | ⟨there, -, later⟩
    · have moved := here.moved source (.along step)
      generalize here.move source (.along step) = result at moved now
      cases moved with
      | reached there => exact absurd now List.not_mem_nil
      | stayed missing => exact absurd now List.not_mem_nil
      | failed beyond => exact List.mem_singleton.mp now ▸ rfl
      | @lost name miss found absent isMiss =>
        rw [List.mem_singleton.mp now]
        cases miss with
        | step segment kind => cases isMiss
        | _ => rfl
    · exact ih later

theorem filter_isStep_walkSegments_cons (source : String) (segment : Segment)
    (rest : List Segment) (here : Located) :
    (walkSegments source (segment :: rest) here).events.filter Event.isStep =
      .step segment here.kind ::
        match here.follow source segment.steps with
        | .ok there => (walkSegments source rest there).events.filter Event.isStep
        | .error _ => [] := by
  have quiet : (segment.walk source here).events.filter Event.isStep = [] := by
    rw [Segment.walk_eq_walk, List.filter_eq_nil_iff]
    intro event member
    simp [isStep_of_mem_alongSteps member]
  have entered : walkSegments source (segment :: rest) here =
      Logged.note (.step segment here.kind) >>= fun _ =>
        segment.walk source here >>= fun there => walkSegments source rest there := rfl
  rw [entered, Logged.bind_of_ok rfl, ← Segment.outcome_walk]
  cases outcome : (segment.walk source here).outcome with
  | ok there => simp [Logged.bind_of_ok outcome, Logged.note, List.filter_cons, quiet]
  | error failure => simp [Logged.bind_of_error outcome, Logged.note, List.filter_cons, quiet]

/-- The events of segments entered, one by one: each tells of a segment that the walk gets to and of
what it gets there. -/
theorem getElem?_filter_isStep_walkSegments {i : Nat} :
    ((walkSegments source segments here).events.filter Event.isStep)[i]? = some event ↔
      ∃ segment there, segments[i]? = some segment ∧
        here.follow source ((segments.take i).flatMap Segment.steps) = .ok there ∧
        event = .step segment there.kind := by
  induction segments generalizing here i with
  | nil => simp [walkSegments]
  | cons segment rest ih =>
    rw [filter_isStep_walkSegments_cons]
    cases i with
    | zero => simp [Located.follow, eq_comm]
    | succ i =>
      simp only [List.getElem?_cons_succ, List.take_succ_cons, List.flatMap_cons,
        Located.follow_append]
      cases here.follow source segment.steps with
      | ok there => exact ih
      | error failure => simp [Except.bind]

theorem length_filter_isStep_of_ok {there : Located}
    (ok : (walkSegments source segments here).outcome = .ok there) :
    ((walkSegments source segments here).events.filter Event.isStep).length =
      segments.length := by
  induction segments generalizing here with
  | nil => rfl
  | cons segment rest ih =>
    rw [outcome_walkSegments, List.flatMap_cons, Located.follow_append] at ok
    rw [filter_isStep_walkSegments_cons]
    cases first : here.follow source segment.steps with
    | ok next =>
      rw [first] at ok
      have rest_ok := (outcome_walkSegments source rest next).trans ok
      simp [ih rest_ok]
    | error failure =>
      rw [first] at ok
      cases ok

theorem exists_aborted_segment {failure : Failure}
    (error : (walkSegments source segments here).outcome = .error failure) :
    ∃ j there, j < segments.length ∧
      here.follow source ((segments.take j).flatMap Segment.steps) = .ok there ∧
      here.follow source ((segments.take (j + 1)).flatMap Segment.steps) = .error failure ∧
      ((walkSegments source segments here).events.filter Event.isStep).length = j + 1 := by
  induction segments generalizing here with
  | nil => cases error
  | cons segment rest ih =>
    rw [outcome_walkSegments, List.flatMap_cons, Located.follow_append] at error
    rw [filter_isStep_walkSegments_cons]
    cases first : here.follow source segment.steps with
    | error other =>
      rw [first] at error
      cases error
      exact ⟨0, here, Nat.succ_pos _, rfl, by simpa using first, rfl⟩
    | ok next =>
      rw [first] at error
      obtain ⟨j, there, inside, arrives, aborts, length⟩ :=
        ih ((outcome_walkSegments source rest next).trans error)
      refine ⟨j + 1, there, Nat.succ_lt_succ inside, ?_, ?_, congrArg Nat.succ length⟩
      · rw [List.take_succ_cons, List.flatMap_cons, Located.follow_append, first]
        exact arrives
      · rw [List.take_succ_cons, List.flatMap_cons, Located.follow_append, first]
        exact aborts

end Steps

/-! Walks along paths -/

private theorem length_filter_le_one {α : Type} {p : α → Bool} {items : List α}
    (pairwise : items.Pairwise fun earlier later => p earlier = true → p later = false) :
    (items.filter p).length ≤ 1 := by
  induction items with
  | nil => exact Nat.zero_le 1
  | cons first rest ih =>
    obtain ⟨none_later, rest_pairwise⟩ := List.pairwise_cons.mp pairwise
    by_cases holds : p first = true
    · have none : rest.filter p = [] :=
        List.filter_eq_nil_iff.mpr fun later member => by simp [none_later later member holds]
      simp [holds, none]
    · simpa [holds] using ih rest_pairwise

namespace Path

theorem evaluate_eq_walk (path : Path) (root : Json) :
    path.evaluate root =
      (Located.found root).walk path.source (path.segments.flatMap Segment.moves) :=
  walkSegments_eq_walk path.source path.segments (.found root)

theorem pairwise_evaluate (path : Path) (root : Json) :
    (path.evaluate root).events.Pairwise fun earlier later =>
      earlier.isFieldMiss = true → later.FromMissing := by
  rw [evaluate_eq_walk]
  exact Located.pairwise_walk path.source (.found root) _

theorem tells_evaluate (path : Path) (root : Json) :
    (path.evaluate root).Tells Event.isIndexMiss := by
  rw [evaluate_eq_walk]
  exact Located.tells_walk path.source (.found root) _

theorem exists_fieldMiss_evaluate_iff (path : Path) (root : Json) :
    (∃ event ∈ (path.evaluate root).events, event.isFieldMiss = true) ↔
      ∃ before, before <+: path.steps ∧ Misses root before := by
  rw [evaluate_eq_walk, Located.exists_fieldMiss_iff (Located.found_ne_missing root),
    filterMap_step?_moves]
  simp only [Located.Loses, follow_eq_missing_iff]
  rfl

theorem length_fieldMiss_evaluate_le (path : Path) (root : Json) :
    ((path.evaluate root).events.filter Event.isFieldMiss).length ≤ 1 :=
  length_filter_le_one ((path.pairwise_evaluate root).imp fun behind miss => (behind miss).1)

theorem length_fieldMiss_evaluate_eq_one_iff (path : Path) (root : Json) :
    ((path.evaluate root).events.filter Event.isFieldMiss).length = 1 ↔
      ∃ before, before <+: path.steps ∧ Misses root before := by
  have most := path.length_fieldMiss_evaluate_le root
  have some_iff : 0 < ((path.evaluate root).events.filter Event.isFieldMiss).length ↔
      ∃ event ∈ (path.evaluate root).events, event.isFieldMiss = true := by
    simp [List.length_pos_iff, List.filter_eq_nil_iff]
  rw [← exists_fieldMiss_evaluate_iff, ← some_iff]
  omega

theorem kind_of_step_behind_fieldMiss {path : Path} {root : Json} {before after : List Event}
    {miss : Event} {segment : Segment} {kind : Kind}
    (split : (path.evaluate root).events = before ++ miss :: after)
    (isMiss : miss.isFieldMiss = true) (member : .step segment kind ∈ after) :
    kind = .missing := by
  have pairwise := path.pairwise_evaluate root
  rw [split, List.pairwise_append] at pairwise
  have behind := (List.pairwise_cons.mp pairwise.2.1).1 _ member isMiss
  exact behind.2 segment kind rfl

theorem exists_indexMiss_evaluate_iff (path : Path) (root : Json) :
    (∃ event ∈ (path.evaluate root).events, event.isIndexMiss = true) ↔
      ∃ failure, (path.evaluate root).outcome = .error failure := by
  have tells := path.tells_evaluate root
  constructor
  · rintro ⟨event, member, miss⟩
    cases outcome : (path.evaluate root).outcome with
    | ok here =>
      rw [tells.of_ok outcome event member] at miss
      cases miss
    | error failure => exact ⟨failure, rfl⟩
  · rintro ⟨failure, error⟩
    obtain ⟨before, event, events, -, miss, -⟩ := tells.of_error error
    exact ⟨event, by simp [events], miss⟩

theorem events_of_evaluate_error {path : Path} {root : Json} {failure : Failure}
    (error : (path.evaluate root).outcome = .error failure) :
    ∃ index length before, failure = .indexNotFound path.source index length ∧
      (path.evaluate root).events = before ++ [.indexNotFound path.source index length] ∧
      ∀ event ∈ before, event.isIndexMiss = false := by
  obtain ⟨before, event, events, own, -, others⟩ := (path.tells_evaluate root).of_error error
  rw [outcome_evaluate] at error
  obtain ⟨index, length, -, rfl⟩ := follow_eq_error_iff.mp error
  cases own
  exact ⟨index, length, before, rfl, events, others⟩

theorem class_and_level_of_mem_evaluate {path : Path} {root : Json} {event : Event}
    (member : event ∈ (path.evaluate root).events) :
    event.isStep = true ∧ event.level = .trace ∨
      (event.isFieldMiss = true ∨ event.isIndexMiss = true) ∧ event.level = .debug := by
  rw [evaluate_eq_walk] at member
  have known := Located.class_of_mem_walk member
  cases event with
  | step segment kind => exact .inl ⟨rfl, rfl⟩
  | fieldAbsent field => exact .inr ⟨.inl rfl, rfl⟩
  | fieldOnScalar field kind => exact .inr ⟨.inl rfl, rfl⟩
  | indexNotFound source index length => exact .inr ⟨.inr rfl, rfl⟩
  | _ => simp [Event.isStep, Event.isFieldMiss, Event.isIndexMiss] at known

/-- The log of a walk tells just how it went.  There is an event for every segment entered, in
order, with what the walk was at: for all segments if it succeeds, and for those up to the one that
it fails in otherwise.  There is at most one event of a member that is not there, and there is one
exactly if steps of the path miss, behind which every segment is entered at a missing node.  There
is an event of a position that is not there exactly if the walk fails; it is the only one, the last
event of all, and just what the failure says.  There are no other events. -/
theorem evaluate_log (path : Path) (root : Json) :
    let log := (path.evaluate root).events
    let outcome := (path.evaluate root).outcome
    let cursor (n : Nat) :=
      (Located.found root).follow path.source ((path.segments.take n).flatMap Segment.steps)
    ((∀ (i : Nat) (event : Event), (log.filter Event.isStep)[i]? = some event ↔
          ∃ segment here, path.segments[i]? = some segment ∧ cursor i = .ok here ∧
            event = .step segment here.kind) ∧
        (∀ here, outcome = .ok here →
          (log.filter Event.isStep).length = path.segments.length) ∧
        ∀ failure, outcome = .error failure →
          ∃ j here, j < path.segments.length ∧ cursor j = .ok here ∧
            cursor (j + 1) = .error failure ∧ (log.filter Event.isStep).length = j + 1) ∧
      ((log.filter Event.isFieldMiss).length ≤ 1 ∧
        ((log.filter Event.isFieldMiss).length = 1 ↔
          ∃ before, before <+: path.steps ∧ Misses root before) ∧
        ∀ before miss after, log = before ++ miss :: after → miss.isFieldMiss = true →
          ∀ segment kind, .step segment kind ∈ after → kind = .missing) ∧
      (((∃ event ∈ log, event.isIndexMiss = true) ↔ ∃ failure, outcome = .error failure) ∧
        ∀ failure, outcome = .error failure →
          ∃ index length before, failure = .indexNotFound path.source index length ∧
            log = before ++ [.indexNotFound path.source index length] ∧
            ∀ event ∈ before, event.isIndexMiss = false) ∧
      ∀ event ∈ log,
        event.isStep = true ∧ event.level = .trace ∨
          (event.isFieldMiss = true ∨ event.isIndexMiss = true) ∧ event.level = .debug := by
  intro log outcome cursor
  refine ⟨⟨?_, ?_, ?_⟩, ⟨?_, ?_, ?_⟩, ⟨?_, ?_⟩, ?_⟩
  · exact fun i event => getElem?_filter_isStep_walkSegments
  · exact fun here => length_filter_isStep_of_ok
  · exact fun failure => exists_aborted_segment
  · exact path.length_fieldMiss_evaluate_le root
  · exact path.length_fieldMiss_evaluate_eq_one_iff root
  · exact fun before miss after split isMiss segment kind =>
      kind_of_step_behind_fieldMiss split isMiss
  · exact path.exists_indexMiss_evaluate_iff root
  · exact fun failure => events_of_evaluate_error
  · exact fun event => class_and_level_of_mem_evaluate

end Path

end DotPath
