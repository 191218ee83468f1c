import DotPath.Proofs.StepWalk
import DotPath.Session

/-!
The cache cannot be told from its absence by results.  Every path that is kept is what its source
text compiles to; each request preserves this, so that a session answers every request as if every
path were compiled anew.
-/

set_option autoImplicit false
set_option relaxedAutoImplicit false

namespace DotPath

namespace Cache

def empty : Option Nat → Cache
  | some capacity => withCapacity capacity
  | none => uncached

/-- Holds of a cache whose paths are what their source texts compile to. -/
def Faithful (cache : Cache) : Prop :=
  ∀ source compilation, (source, compilation) ∈ cache.entries →
    Path.compile source = .ok compilation.path

theorem faithful_empty (capacity : Option Nat) : (empty capacity).Faithful := by
  intro source compilation member
  cases capacity with
  | none => cases member
  | some capacity => cases member

/-! What a request for a compiled path does -/

theorem outcome_store (cache : Cache) (source : String) (path : Path) :
    (cache.store source path).2.outcome = .ok ⟨cache.nextSerial, path⟩ := by
  unfold store
  cases cache.capacity with
  | none => rfl
  | some capacity =>
    dsimp only
    split
    · rfl
    · rfl

theorem store_fst (cache : Cache) (source : String) (path : Path) :
    (cache.store source path).1 =
      { capacity := cache.capacity
        entries :=
          if cache.size < cache.capacity.getD 0 then
            cache.entries ++ [(source, ⟨cache.nextSerial, path⟩)]
          else cache.entries
        nextSerial := cache.nextSerial + 1 } := by
  unfold store
  cases cache.capacity with
  | none => rfl
  | some capacity =>
    simp only [Option.getD_some]
    split
    · rfl
    · rfl

theorem mem_entries_store {cache : Cache} {source : String} {path : Path}
    {entry : String × Compilation} (member : entry ∈ (cache.store source path).1.entries) :
    entry ∈ cache.entries ∨ entry = (source, ⟨cache.nextSerial, path⟩) := by
  rw [store_fst] at member
  dsimp only at member
  split at member
  · rcases List.mem_append.mp member with old | new
    · exact .inl old
    · exact .inr (List.mem_singleton.mp new)
  · exact .inl member

private theorem not_mem_sources_of_lookup {cache : Cache} {source : String}
    (absent : cache.entries.lookup source = none) : source ∉ cache.sources := by
  intro member
  obtain ⟨entry, kept, rfl⟩ := List.mem_map.mp member
  have other := List.lookup_eq_none_iff.mp absent entry kept
  simp at other

/-- A request finds the path in the cache, or compiles it in vain, or compiles it and stores it. -/
theorem compiled_cases (cache : Cache) (source : String) :
    (∃ compilation, (source, compilation) ∈ cache.entries ∧
        cache.compiled source = (cache, pure compilation)) ∨
      (∃ failure, source ∉ cache.sources ∧ Path.compile source = .error failure ∧
        (cache.compiled source).1 = cache ∧ (cache.compiled source).2.outcome = .error failure) ∨
      ∃ path, source ∉ cache.sources ∧ Path.compile source = .ok path ∧
        (cache.compiled source).1 = (cache.store source path).1 ∧
        (cache.compiled source).2.outcome = .ok ⟨cache.nextSerial, path⟩ := by
  cases kept : cache.entries.lookup source with
  | some compilation =>
    obtain ⟨before, after, split, -⟩ := List.lookup_eq_some_iff.mp kept
    refine .inl ⟨compilation, ?_, ?_⟩
    · rw [split]
      exact List.mem_append_right before List.mem_cons_self
    · unfold compiled
      rw [kept]
  | none =>
    have outcome := Path.outcome_compileLogged source
    have absent := not_mem_sources_of_lookup kept
    refine .inr ?_
    unfold compiled
    rw [kept]
    cases compiles : Path.compile source with
    | error failure =>
      rw [compiles] at outcome
      refine .inl ⟨failure, absent, rfl, ?_, ?_⟩
      · simp only [outcome]
      · simp only [outcome]
    | ok path =>
      rw [compiles] at outcome
      refine .inr ⟨path, absent, rfl, ?_, ?_⟩
      · simp only [outcome]
      · simp only [outcome, Logged.outcome_bind, outcome_store]
        rfl

theorem compiled_induction {motive : Cache → Prop} {cache : Cache} {source : String}
    (same : motive cache)
    (stored : ∀ path, source ∉ cache.sources → Path.compile source = .ok path →
      motive (cache.store source path).1) :
    motive (cache.compiled source).1 := by
  rcases compiled_cases cache source with
    ⟨_, -, hit⟩ | ⟨_, -, -, unchanged, -⟩ | ⟨path, new, compiles, stores, -⟩
  · rw [hit]
    exact same
  · rw [unchanged]
    exact same
  · rw [stores]
    exact stored path new compiles

section Faithful

variable {cache : Cache} (faithful : cache.Faithful) (source : String)

include faithful

theorem Faithful.compiled : (cache.compiled source).1.Faithful := by
  refine compiled_induction faithful fun path _ compiles other compilation member => ?_
  rcases mem_entries_store member with old | new
  · exact faithful other compilation old
  · cases new
    exact compiles

theorem Faithful.outcome_compiled :
    (cache.compiled source).2.outcome.map Compilation.path = Path.compile source := by
  rcases compiled_cases cache source with
    ⟨compilation, kept, hit⟩ | ⟨failure, -, compiles, -, outcome⟩ |
      ⟨path, -, compiles, -, outcome⟩
  · rw [hit, faithful source compilation kept]
    rfl
  · rw [outcome, compiles]
    rfl
  · rw [outcome, compiles]
    rfl

theorem Faithful.outcome_locate (root : Json) :
    (cache.locate root source).2.outcome = (DotPath.locate root source).outcome := by
  unfold Cache.locate DotPath.locate
  simp only [Logged.outcome_bind, Path.outcome_compileLogged]
  rw [← faithful.outcome_compiled source]
  cases (cache.compiled source).2.outcome <;> rfl

theorem Faithful.outcome_extract (root : Json) (target : Target) :
    (cache.extract root source target).2.outcome = (readAt root source target).outcome := by
  unfold Cache.extract readAt
  simp only [Logged.outcome_bind]
  rw [faithful.outcome_locate source root]

end Faithful

end Cache

/-! Runs where nothing is kept -/

/-- What a reply says, without the events on the way and the numbers of compilations. -/
inductive Result where
  | handle (number : Nat)
  | compiled (outcome : Except Failure Path)
  | located (outcome : Except Failure Located)
  | extracted (outcome : Except Failure Answer)

def Reply.result : Reply → Result
  | .handle number => .handle number
  | .compiled result => .compiled (result.outcome.map Compilation.path)
  | .located result => .located result.outcome
  | .extracted result => .extracted result.outcome

namespace Request

def direct (handles : Nat) : Request → Result
  | .clone => .handle handles
  | .compiled source => .compiled (Path.compile source)
  | .locate root source =>
      .located ((Path.compile source).bind fun path => (path.evaluate root).outcome)
  | .extract root source target => .extracted (readAt root source target).outcome

def handlesAfter (handles : Nat) : Request → Nat
  | .clone => handles + 1
  | _ => handles

end Request

/-- The results of requests one after another, where every path is compiled anew; a request through
a handle that does not exist has none. -/
def directRun : Nat → List (Nat × Request) → List (Option Result)
  | _, [] => []
  | handles, (handle, request) :: rest =>
      if handle < handles then
        some (request.direct handles) :: directRun (request.handlesAfter handles) rest
      else none :: directRun handles rest

namespace Session

variable {session : Session}

theorem handles_answer (session : Session) (request : Request) :
    (session.answer request).1.handles = request.handlesAfter session.handles := by
  cases request <;> rfl

theorem faithful_answer (faithful : session.cache.Faithful) (request : Request) :
    (session.answer request).1.cache.Faithful := by
  cases request with
  | clone => exact faithful
  | compiled source => exact faithful.compiled source
  | locate root source => exact faithful.compiled source
  | extract root source target => exact faithful.compiled source

theorem result_answer (faithful : session.cache.Faithful) (request : Request) :
    (session.answer request).2.result = request.direct session.handles := by
  cases request with
  | clone => rfl
  | compiled source => exact congrArg Result.compiled (faithful.outcome_compiled source)
  | locate root source =>
    have located := faithful.outcome_locate source root
    rw [outcome_locate] at located
    exact congrArg Result.located located
  | extract root source target =>
    exact congrArg Result.extracted (faithful.outcome_extract source root target)

theorem run_of_faithful (session : Session) (faithful : session.cache.Faithful)
    (calls : List (Nat × Request)) :
    (session.run calls).1.cache.Faithful ∧
      (session.run calls).2.map (Option.map Reply.result) = directRun session.handles calls := by
  -- For every session, as a call leaves another one behind; faithfulness is the invariant.
  induction calls generalizing session with
  | nil => exact ⟨faithful, rfl⟩
  | cons call rest ih =>
    obtain ⟨handle, request⟩ := call
    by_cases known : handle < session.handles
    · have next := ih (session.answer request).1 (faithful_answer faithful request)
      simp only [run, request?, directRun, if_pos known, List.map_cons, Option.map_some]
      rw [result_answer faithful request, next.2, handles_answer]
      exact ⟨next.1, rfl⟩
    · have next := ih session faithful
      simp only [run, request?, directRun, if_neg known, List.map_cons, Option.map_none]
      rw [next.2]
      exact ⟨next.1, rfl⟩

/-- With any capacity, none included, and in any order of requests through any handles, every
request has the result that it has where every path is compiled anew.  After any requests, this goes
for every way to read what is located. -/
theorem run_eq_directRun (capacity : Option Nat) (calls : List (Nat × Request)) :
    (((start (Cache.empty capacity)).run calls).2.map (Option.map Reply.result) =
        directRun 1 calls) ∧
      ∀ (α : Type) (read : Located → Logged α) (root : Json) (source : String),
        ((((start (Cache.empty capacity)).run calls).1.cache.locate root source).2
            >>= read).outcome =
          (locate root source >>= read).outcome := by
  have ran := run_of_faithful (start (Cache.empty capacity)) (Cache.faithful_empty capacity) calls
  refine ⟨ran.2, fun α read root source => ?_⟩
  rw [Logged.outcome_bind, Logged.outcome_bind, ran.1.outcome_locate source root]

end Session

end DotPath
