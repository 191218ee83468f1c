import DotPath.Proofs.SharedHandles
import Mathlib.Data.List.Nodup

/-!
What a cache holds after any run of requests.  It keeps the first paths asked for that compile, as
many as there is room for.  A kept path has one compilation from then on, and every other request
that compiles a path makes a compilation of its own.
-/

set_option autoImplicit false
set_option relaxedAutoImplicit false

namespace DotPath

/-! What is asked for -/

def Request.source? : Request → Option String
  | .clone => none
  | .compiled source => some source
  | .locate _ source => some source
  | .extract _ source _ => some source

/-- The source texts asked for through handles that exist, of which there are `handles` at first. -/
def requested : Nat → List (Nat × Request) → List String
  | _, [] => []
  | handles, (handle, request) :: rest =>
      if handle < handles then
        request.source?.toList ++ requested (request.handlesAfter handles) rest
      else requested handles rest

def compiles (source : String) : Bool :=
  (Path.compile source).isOk

def distinct (asked : List String) : List String :=
  (asked.filter compiles).eraseDups

/-- The source texts that a cache keeps.  Without a capacity it has no room for any. -/
def kept (capacity : Option Nat) (asked : List String) : List String :=
  (distinct asked).take (capacity.getD 0)

example : kept (some 2) ["b", "a[", "a", "b", "c"] = ["b", "a"] := by decide

private theorem eraseDups_concat (sources : List String) (source : String) :
    (sources ++ [source]).eraseDups =
      if source ∈ sources then sources.eraseDups else sources.eraseDups ++ [source] := by
  rw [List.eraseDups_append, List.removeAll]
  split
  · next member => simp [member]
  · next new => simp [new, List.eraseDups_cons]

theorem mem_distinct {source : String} {asked : List String} :
    source ∈ distinct asked ↔ source ∈ asked ∧ compiles source = true := by
  rw [distinct, List.mem_eraseDups, List.mem_filter]

theorem distinct_concat_of_not_compiles {source : String} (fails : compiles source = false)
    (asked : List String) : distinct (asked ++ [source]) = distinct asked := by
  simp [distinct, fails]

theorem distinct_concat {source : String} (works : compiles source = true) (asked : List String) :
    distinct (asked ++ [source]) =
      if source ∈ distinct asked then distinct asked else distinct asked ++ [source] := by
  have same : source ∈ distinct asked ↔ source ∈ asked.filter compiles := List.mem_eraseDups
  simp only [same]
  rw [distinct, List.filter_append, List.filter_cons_of_pos works, List.filter_nil]
  exact eraseDups_concat _ _

section Kept

variable (capacity : Option Nat) (asked : List String) {source : String}

theorem kept_concat_of_not_compiles (fails : compiles source = false) :
    kept capacity (asked ++ [source]) = kept capacity asked := by
  rw [kept, distinct_concat_of_not_compiles fails, kept]

theorem kept_concat_of_mem (member : source ∈ kept capacity asked) :
    kept capacity (asked ++ [source]) = kept capacity asked := by
  have known := List.mem_of_mem_take member
  rw [kept, distinct_concat (mem_distinct.mp known).2, if_pos known, kept]

theorem kept_concat_of_not_mem (works : compiles source = true)
    (new : source ∉ kept capacity asked) :
    kept capacity (asked ++ [source]) =
      if (kept capacity asked).length < capacity.getD 0 then kept capacity asked ++ [source]
      else kept capacity asked := by
  unfold kept at new ⊢
  rw [distinct_concat works, List.length_take]
  split
  · next known =>
    -- A path that was asked for, but is not kept, came when there was no room.
    have full : ¬min (capacity.getD 0) (distinct asked).length < capacity.getD 0 := by
      intro room
      refine new ?_
      rw [List.take_of_length_le (by omega)]
      exact known
    rw [if_neg full]
  · next unknown =>
    rw [List.take_append]
    split
    · next room =>
      have fits : [source].length ≤ capacity.getD 0 - (distinct asked).length := by
        simp only [List.length_singleton]
        omega
      rw [List.take_of_length_le fits]
    · next full =>
      have none : capacity.getD 0 - (distinct asked).length = 0 := by omega
      rw [none, List.take_zero, List.append_nil]

end Kept

namespace Cache

variable {cache : Cache}

theorem capacity_store (cache : Cache) (source : String) (path : Path) :
    (cache.store source path).1.capacity = cache.capacity := by
  rw [store_fst]

theorem nextSerial_store (cache : Cache) (source : String) (path : Path) :
    (cache.store source path).1.nextSerial = cache.nextSerial + 1 := by
  rw [store_fst]

theorem entries_store (cache : Cache) (source : String) (path : Path) :
    (cache.store source path).1.entries =
      if cache.size < cache.capacity.getD 0 then
        cache.entries ++ [(source, ⟨cache.nextSerial, path⟩)]
      else cache.entries := by
  rw [store_fst]

theorem sources_store (cache : Cache) (source : String) (path : Path) :
    (cache.store source path).1.sources =
      if cache.sources.length < cache.capacity.getD 0 then cache.sources ++ [source]
      else cache.sources := by
  unfold sources
  rw [entries_store, List.length_map, size]
  split
  · rw [List.map_append, List.map_singleton]
  · rfl

theorem entries_prefix_store (cache : Cache) (source : String) (path : Path) :
    cache.entries <+: (cache.store source path).1.entries := by
  rw [entries_store]
  split
  · exact List.prefix_append _ _
  · exact List.prefix_rfl

def serials (cache : Cache) : List Nat :=
  cache.entries.map fun entry => entry.2.serial

theorem mem_serials_store {source : String} {path : Path} {serial : Nat}
    (member : serial ∈ (cache.store source path).1.serials) :
    serial ∈ cache.serials ∨ serial = cache.nextSerial := by
  obtain ⟨entry, stored, rfl⟩ := List.mem_map.mp member
  rcases mem_entries_store stored with old | new
  · exact .inl (List.mem_map_of_mem old)
  · rw [new]
    exact .inr rfl

/-! What a request changes -/

structure Keeps (cache : Cache) (capacity : Option Nat) (asked : List String) : Prop where
  capacity_eq : cache.capacity = capacity
  sources_eq : cache.sources = kept capacity asked

/-- Holds if no path is kept twice, and no two paths are kept with one number. -/
structure Numbered (cache : Cache) : Prop where
  lt_next : ∀ serial ∈ cache.serials, serial < cache.nextSerial
  nodup_serials : cache.serials.Nodup
  nodup_sources : cache.sources.Nodup

structure Spent (cache : Cache) (serial : Nat) : Prop where
  lt_next : serial < cache.nextSerial
  not_mem : serial ∉ cache.serials

theorem keeps_empty (capacity : Option Nat) : (empty capacity).Keeps capacity [] := by
  cases capacity with
  | none => exact ⟨rfl, rfl⟩
  | some capacity => exact ⟨rfl, List.take_nil.symm⟩

theorem numbered_empty (capacity : Option Nat) : (empty capacity).Numbered := by
  cases capacity with
  | none => exact ⟨nofun, List.nodup_nil, List.nodup_nil⟩
  | some capacity => exact ⟨nofun, List.nodup_nil, List.nodup_nil⟩

theorem entries_prefix_compiled (cache : Cache) (source : String) :
    cache.entries <+: (cache.compiled source).1.entries :=
  compiled_induction (motive := fun next => cache.entries <+: next.entries) List.prefix_rfl
    fun path _ _ => entries_prefix_store cache source path

theorem Keeps.compiled {capacity : Option Nat} {asked : List String}
    (keeps : cache.Keeps capacity asked) (source : String) :
    (cache.compiled source).1.Keeps capacity (asked ++ [source]) := by
  rcases compiled_cases cache source with
    ⟨compilation, member, hit⟩ | ⟨failure, -, fails, unchanged, -⟩ | ⟨path, new, works, stored, -⟩
  · have known : source ∈ kept capacity asked := by
      rw [← keeps.sources_eq]
      exact List.mem_map_of_mem member
    rw [hit]
    exact ⟨keeps.capacity_eq, keeps.sources_eq.trans (kept_concat_of_mem _ _ known).symm⟩
  · have fails : compiles source = false := by rw [compiles, fails]; rfl
    rw [unchanged]
    exact ⟨keeps.capacity_eq,
      keeps.sources_eq.trans (kept_concat_of_not_compiles _ _ fails).symm⟩
  · have works : compiles source = true := by rw [compiles, works]; rfl
    rw [keeps.sources_eq] at new
    rw [stored]
    refine ⟨(capacity_store _ _ _).trans keeps.capacity_eq, ?_⟩
    rw [sources_store, keeps.sources_eq, keeps.capacity_eq, kept_concat_of_not_mem _ _ works new]

theorem Numbered.compiled (numbered : cache.Numbered) (source : String) :
    (cache.compiled source).1.Numbered := by
  refine compiled_induction numbered fun path new _ => ⟨fun serial member => ?_, ?_, ?_⟩
  · rw [nextSerial_store]
    rcases mem_serials_store member with old | fresh
    · exact Nat.lt_succ_of_lt (numbered.lt_next serial old)
    · exact Nat.lt_succ_of_le (Nat.le_of_eq fresh)
  · rw [serials, entries_store]
    split
    · rw [List.map_append, List.map_singleton]
      refine List.nodup_append'.mpr ⟨numbered.nodup_serials, List.nodup_singleton _, ?_⟩
      refine List.disjoint_singleton.mpr fun member => ?_
      exact Nat.lt_irrefl _ (numbered.lt_next _ member)
    · exact numbered.nodup_serials
  · rw [sources_store]
    split
    · exact List.nodup_append'.mpr
        ⟨numbered.nodup_sources, List.nodup_singleton _, List.disjoint_singleton.mpr new⟩
    · exact numbered.nodup_sources

theorem Spent.compiled {serial : Nat} (spent : cache.Spent serial) (source : String) :
    (cache.compiled source).1.Spent serial := by
  refine compiled_induction (motive := fun next => next.Spent serial) spent
    fun path _ _ => ⟨?_, fun member => ?_⟩
  · rw [nextSerial_store]
    exact Nat.lt_succ_of_lt spent.lt_next
  · rcases mem_serials_store member with old | fresh
    · exact spent.not_mem old
    · exact Nat.ne_of_lt spent.lt_next fresh

/-! What a request for a compiled path gives -/

theorem compiled_of_error {source : String} {failure : Failure}
    (fails : Path.compile source = .error failure) (cache : Cache) :
    (cache.compiled source).1 = cache := by
  refine compiled_induction (motive := fun next => next = cache) rfl fun path _ works => ?_
  rw [fails] at works
  cases works

theorem Numbered.compiled_of_mem (numbered : cache.Numbered) {source : String}
    {compilation : Compilation} (member : (source, compilation) ∈ cache.entries) :
    cache.compiled source = (cache, pure compilation) := by
  have known : source ∈ cache.sources := List.mem_map_of_mem member
  rcases compiled_cases cache source with
    ⟨other, also, hit⟩ | ⟨_, new, -⟩ | ⟨_, new, -⟩
  · have same := List.inj_on_of_nodup_map numbered.nodup_sources also member rfl
    cases same
    exact hit
  · exact absurd known new
  · exact absurd known new

theorem given_cases {source : String} {compilation : Compilation}
    (outcome : (cache.compiled source).2.outcome = .ok compilation) :
    ((source, compilation) ∈ cache.entries ∧ (cache.compiled source).1 = cache) ∨
      source ∉ cache.sources ∧ compilation.serial = cache.nextSerial ∧
        (cache.compiled source).1 = (cache.store source compilation.path).1 := by
  rcases compiled_cases cache source with
    ⟨other, member, hit⟩ | ⟨_, -, -, -, failed⟩ | ⟨path, new, -, stored, given⟩
  · rw [hit] at outcome
    cases outcome
    exact .inl ⟨member, congrArg Prod.fst hit⟩
  · rw [failed] at outcome
    cases outcome
  · rw [given] at outcome
    cases outcome
    exact .inr ⟨new, rfl, stored⟩

theorem Numbered.mem_or_spent (numbered : cache.Numbered) {source : String}
    {compilation : Compilation}
    (outcome : (cache.compiled source).2.outcome = .ok compilation) :
    (source, compilation) ∈ (cache.compiled source).1.entries ∨
      source ∉ (cache.compiled source).1.sources ∧
        (cache.compiled source).1.Spent compilation.serial := by
  rcases given_cases outcome with ⟨member, unchanged⟩ | ⟨new, serial, stored⟩
  · rw [unchanged]
    exact .inl member
  · have room : cache.sources.length = cache.size := List.length_map _
    rw [stored, entries_store, sources_store, room, ← serial]
    split
    · exact .inl (List.mem_append_right _ (List.mem_singleton_self _))
    · next full =>
      refine .inr ⟨new, ?_, fun member => ?_⟩
      · rw [nextSerial_store, serial]
        exact Nat.lt_succ_self _
      · rw [serials, entries_store, if_neg full, serial] at member
        exact Nat.lt_irrefl _ (numbered.lt_next _ member)

/-- Two requests with others in between give the same compilation if both ask for the path, and the
first one leaves it in the cache. -/
theorem Numbered.serial_eq_iff (numbered : cache.Numbered) {later : Cache}
    (numbered_later : later.Numbered) {source other : String} {one two : Compilation}
    (first : (cache.compiled source).2.outcome = .ok one)
    (entries : (cache.compiled source).1.entries <+: later.entries)
    (spent : ∀ serial, (cache.compiled source).1.Spent serial → later.Spent serial)
    (second : (later.compiled other).2.outcome = .ok two) :
    one.serial = two.serial ↔ source = other ∧ source ∈ (cache.compiled source).1.sources := by
  -- The first compilation is kept for good, or no cache after it ever holds it.
  rcases numbered.mem_or_spent first with stays | ⟨absent, gone⟩
  · have member : (source, one) ∈ later.entries := entries.subset stays
    have known : source ∈ (cache.compiled source).1.sources := List.mem_map_of_mem stays
    rcases given_cases second with ⟨found, -⟩ | ⟨new, serial, -⟩
    · constructor
      · intro same
        have equal := List.inj_on_of_nodup_map numbered_later.nodup_serials member found same
        exact ⟨congrArg Prod.fst equal, known⟩
      · intro same
        have equal := List.inj_on_of_nodup_map numbered_later.nodup_sources member found same.1
        exact congrArg (fun entry => entry.2.serial) equal
    · have old := numbered_later.lt_next one.serial (List.mem_map_of_mem member)
      refine iff_of_false (by omega) fun same => new ?_
      rw [← same.1]
      exact List.mem_map_of_mem member
  · refine iff_of_false (fun same => ?_) fun same => absent same.2
    have unkept := spent one.serial gone
    rcases given_cases second with ⟨found, -⟩ | ⟨-, serial, -⟩
    · refine unkept.not_mem ?_
      rw [same]
      exact List.mem_map_of_mem found
    · have old := unkept.lt_next
      omega

end Cache

/-! Runs -/

namespace Session

def after (capacity : Option Nat) (calls : List (Nat × Request)) : Session :=
  ((start (Cache.empty capacity)).run calls).1

def Gives (session : Session) (handle : Nat) (source : String) (compilation : Compilation) :
    Prop :=
  ∃ next result, session.request? handle (.compiled source) = some (next, .compiled result) ∧
    result.outcome = .ok compilation

variable {session : Session}

theorem gives_iff {handle : Nat} {source : String} {compilation : Compilation} :
    session.Gives handle source compilation ↔
      handle < session.handles ∧
        (session.cache.compiled source).2.outcome = .ok compilation := by
  unfold Gives request?
  split
  · next known => simp [known, answer]
  · next unknown => simp [unknown]

theorem state_run_cons (session : Session) (handle : Nat) (request : Request)
    (rest : List (Nat × Request)) :
    (session.run ((handle, request) :: rest)).1 =
      ((if handle < session.handles then (session.answer request).1 else session).run rest).1 := by
  by_cases known : handle < session.handles
  · simp only [run, request?, if_pos known]
  · simp only [run, request?, if_neg known]

theorem state_run_append (session : Session) (calls more : List (Nat × Request)) :
    (session.run (calls ++ more)).1 = ((session.run calls).1.run more).1 := by
  induction calls generalizing session with
  | nil => rfl
  | cons call rest ih =>
    rw [List.cons_append, state_run_cons, state_run_cons, ih]

theorem after_append (capacity : Option Nat) (calls more : List (Nat × Request)) :
    after capacity (calls ++ more) = ((after capacity calls).run more).1 :=
  state_run_append _ calls more

theorem cache_answer (session : Session) (request : Request) :
    (session.answer request).1.cache =
      match request.source? with
      | some source => (session.cache.compiled source).1
      | none => session.cache := by
  cases request with
  | _ => rfl

theorem run_induction {motive : Cache → Prop}
    (step : ∀ cache source, motive cache → motive (cache.compiled source).1)
    (initial : motive session.cache) (calls : List (Nat × Request)) :
    motive (session.run calls).1.cache := by
  induction calls generalizing session with
  | nil => exact initial
  | cons call rest ih =>
    rw [state_run_cons]
    refine ih ?_
    split
    · rw [cache_answer]
      split
      · exact step _ _ initial
      · exact initial
    · exact initial

theorem keeps_run {capacity : Option Nat} {asked : List String}
    (keeps : session.cache.Keeps capacity asked) (calls : List (Nat × Request)) :
    (session.run calls).1.cache.Keeps capacity (asked ++ requested session.handles calls) := by
  -- What was asked for before is part of the invariant, as the run is opened at its front.
  induction calls generalizing session asked with
  | nil =>
    rw [requested, List.append_nil]
    exact keeps
  | cons call rest ih =>
    obtain ⟨handle, request⟩ := call
    rw [state_run_cons, requested]
    split
    · rw [← List.append_assoc, ← handles_answer]
      refine ih ?_
      rw [cache_answer]
      cases request.source? with
      | some source => exact keeps.compiled source
      | none =>
        rw [Option.toList_none, List.append_nil]
        exact keeps
    · exact ih keeps

section After

variable (capacity : Option Nat) (calls : List (Nat × Request))

theorem keeps_after :
    (after capacity calls).cache.Keeps capacity (requested 1 calls) := by
  have initial : (start (Cache.empty capacity)).cache.Keeps capacity [] :=
    Cache.keeps_empty capacity
  exact keeps_run initial calls

theorem numbered_after : (after capacity calls).cache.Numbered :=
  run_induction (fun _ source numbered => numbered.compiled source)
    (Cache.numbered_empty capacity) calls

theorem entries_prefix_after (more : List (Nat × Request)) :
    (after capacity calls).cache.entries <+: (after capacity (calls ++ more)).cache.entries := by
  rw [after_append]
  exact run_induction
    (motive := fun cache => (after capacity calls).cache.entries <+: cache.entries)
    (fun cache source grown => grown.trans (cache.entries_prefix_compiled source))
    List.prefix_rfl more

theorem cache_after_concat_of_error {request : Request} {source : String} {failure : Failure}
    (asks : request.source? = some source) (fails : Path.compile source = .error failure)
    (handle : Nat) :
    (after capacity (calls ++ [(handle, request)])).cache = (after capacity calls).cache := by
  rw [after_append, state_run_cons]
  split
  · rw [run, cache_answer, asks]
    exact Cache.compiled_of_error fails _
  · rfl

theorem exists_gives_of_mem {source : String}
    (member : source ∈ kept capacity (requested 1 calls)) :
    ∃ compilation, ∀ more handle, handle < (after capacity (calls ++ more)).handles →
      (after capacity (calls ++ more)).Gives handle source compilation := by
  rw [← (keeps_after capacity calls).sources_eq] at member
  obtain ⟨⟨_, compilation⟩, stored, rfl⟩ := List.mem_map.mp member
  refine ⟨compilation, fun more handle known => gives_iff.mpr ⟨known, ?_⟩⟩
  have later := (entries_prefix_after capacity calls more).subset stored
  rw [(numbered_after capacity (calls ++ more)).compiled_of_mem later]
  rfl

/-- Two requests for compiled paths share their compilation if both are for the path, and it is kept
once the first one is answered. -/
theorem gives_serial_eq_iff {more : List (Nat × Request)} {first second : Nat}
    {source other : String} {one two : Compilation}
    (gives : (after capacity calls).Gives first source one)
    (gives_later : (after capacity (calls ++ (first, .compiled source) :: more)).Gives second other
      two) :
    one.serial = two.serial ↔
      source = other ∧
        source ∈ kept capacity (requested 1 (calls ++ [(first, .compiled source)])) := by
  obtain ⟨known, outcome⟩ := gives_iff.mp gives
  -- The first request ends a run, and the second one is answered after more of it.
  generalize asked : calls ++ [(first, Request.compiled source)] = calls_first
  have cache : (after capacity calls_first).cache =
      ((after capacity calls).cache.compiled source).1 := by
    rw [← asked, after_append, state_run_cons, if_pos known]
    rfl
  have spent : ∀ serial, (after capacity calls_first).cache.Spent serial →
      (after capacity (calls_first ++ more)).cache.Spent serial := by
    intro serial spent
    rw [after_append]
    exact run_induction (motive := fun cache => cache.Spent serial)
      (fun _ source spent => spent.compiled source) spent more
  have entries := entries_prefix_after capacity calls_first more
  rw [List.append_cons, asked] at gives_later
  rw [cache] at entries spent
  rw [← (keeps_after capacity calls_first).sources_eq, cache]
  exact (numbered_after capacity calls).serial_eq_iff (numbered_after capacity _) outcome entries
    spent (gives_iff.mp gives_later).2

end After

/-- After any requests in any order through any handles, the cache holds the first different paths
that compile, as many as there is room for: no more than its capacity, and none without one.  More
requests only add to it, and one for a path that fails to compile does not.  Every handle sees this
cache.  A path that is kept is given with one compilation from then on, and two requests share a
compilation only so: one after the other for one path, they do exactly if it is kept. -/
theorem cache_after_exact (capacity : Option Nat) (calls : List (Nat × Request)) :
    (after capacity calls).cache.sources = kept capacity (requested 1 calls) ∧
      (after capacity calls).cache.size =
        min (capacity.getD 0) (distinct (requested 1 calls)).length ∧
      (∀ more,
        (after capacity calls).cache.entries <+: (after capacity (calls ++ more)).cache.entries) ∧
      (∀ handle request source failure, request.source? = some source →
        Path.compile source = .error failure →
          (after capacity (calls ++ [(handle, request)])).cache = (after capacity calls).cache) ∧
      ((Linked.start (Cache.empty capacity)).run calls).2 =
        ((start (Cache.empty capacity)).run calls).2 ∧
      (∀ handle,
        ((Linked.start (Cache.empty capacity)).run calls).1.view? handle =
          if handle < (after capacity calls).handles then some (after capacity calls).cache
          else none) ∧
      (∀ source ∈ kept capacity (requested 1 calls), ∃ compilation, ∀ more handle,
        handle < (after capacity (calls ++ more)).handles →
          (after capacity (calls ++ more)).Gives handle source compilation) ∧
      ∀ more first second source other one two,
        (after capacity calls).Gives first source one →
        (after capacity (calls ++ (first, .compiled source) :: more)).Gives second other two →
          (one.serial = two.serial ↔
            source = other ∧
              source ∈ kept capacity (requested 1 (calls ++ [(first, .compiled source)]))) := by
  have keeps := keeps_after capacity calls
  have linked := Linked.run_start (Cache.empty capacity) calls
  have size : (after capacity calls).cache.size = (kept capacity (requested 1 calls)).length := by
    rw [← keeps.sources_eq, Cache.sources, List.length_map, Cache.size]
  refine ⟨keeps.sources_eq, ?_, entries_prefix_after capacity calls, ?_,
    linked.1, linked.2, ?_, ?_⟩
  · rw [size, kept, List.length_take]
  · intro handle request source failure asks fails
    exact cache_after_concat_of_error capacity calls asks fails handle
  · intro source member
    exact exists_gives_of_mem capacity calls member
  · intro more first second source other one two gives gives_later
    exact gives_serial_eq_iff capacity calls gives gives_later

end Session

end DotPath
