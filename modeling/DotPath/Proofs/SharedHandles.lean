import DotPath.Proofs.CacheTransparency

/-!
Handles that refer to caches.  Here every handle refers to a place, the caches are at the places,
and a clone refers to the place of the handle it is made from.  Such sessions give the replies of
sessions with one cache, and all of their handles see that cache.
-/

set_option autoImplicit false
set_option relaxedAutoImplicit false

namespace DotPath

/-- Caches at places, and the places that the handles refer to. -/
structure Linked where
  caches : Nat → Cache
  places : List Nat

namespace Linked

def start (cache : Cache) : Linked :=
  ⟨fun _ => cache, [0]⟩

def view? (linked : Linked) (handle : Nat) : Option Cache :=
  linked.places[handle]?.map linked.caches

def placesAfter (places : List Nat) (place : Nat) : Request → List Nat
  | .clone => places ++ [place]
  | _ => places

def answer (linked : Linked) (place : Nat) (request : Request) : Linked × Reply :=
  let (next, reply) :=
    (Session.mk (linked.caches place) linked.places.length).answer request
  ({ caches := fun other => if other = place then next.cache else linked.caches other
     places := placesAfter linked.places place request }, reply)

def run (linked : Linked) : List (Nat × Request) → Linked × List (Option Reply)
  | [] => (linked, [])
  | (handle, request) :: rest =>
      match linked.places[handle]? with
      | some place =>
          let (next, reply) := linked.answer place request
          let (last, replies) := next.run rest
          (last, some reply :: replies)
      | none =>
          let (last, replies) := linked.run rest
          (last, none :: replies)

/-- Holds if all handles refer to one place, with the cache of a session. -/
def Follows (linked : Linked) (session : Session) : Prop :=
  ∃ place, linked.places = List.replicate session.handles place ∧
    linked.caches place = session.cache

theorem follows_start (cache : Cache) : (start cache).Follows (.start cache) :=
  ⟨0, rfl, rfl⟩

namespace Follows

variable {linked : Linked} {session : Session}

theorem view?_eq (follows : linked.Follows session) {handle : Nat}
    (known : handle < session.handles) : linked.view? handle = some session.cache := by
  obtain ⟨place, places, cache⟩ := follows
  unfold view?
  rw [places, List.getElem?_replicate_of_lt known, Option.map_some, cache]

theorem view?_eq_none (follows : linked.Follows session) {handle : Nat}
    (unknown : ¬handle < session.handles) : linked.view? handle = none := by
  obtain ⟨place, places, -⟩ := follows
  unfold view?
  rw [places, List.getElem?_replicate, if_neg unknown, Option.map_none]

theorem answer {place : Nat} (places : linked.places = List.replicate session.handles place)
    (cache : linked.caches place = session.cache) (request : Request) :
    (linked.answer place request).2 = (session.answer request).2 ∧
      (linked.answer place request).1.Follows (session.answer request).1 := by
  have same : Session.mk (linked.caches place) linked.places.length = session := by
    rw [places, cache, List.length_replicate]
  unfold Linked.answer
  rw [same]
  refine ⟨rfl, place, ?_, if_pos rfl⟩
  cases request with
  | clone =>
    show linked.places ++ [place] = _
    rw [places]
    exact List.replicate_succ'.symm
  | _ => exact places

theorem run (follows : linked.Follows session) (calls : List (Nat × Request)) :
    (linked.run calls).2 = (session.run calls).2 ∧
      (linked.run calls).1.Follows (session.run calls).1 := by
  -- For all sessions that follow each other, as an answer leads to two more of them.
  induction calls generalizing linked session with
  | nil => exact ⟨rfl, follows⟩
  | cons call rest ih =>
    obtain ⟨handle, request⟩ := call
    obtain ⟨place, places, cache⟩ := follows
    by_cases known : handle < session.handles
    · have found : linked.places[handle]? = some place := by
        rw [places, List.getElem?_replicate_of_lt known]
      have answered := answer places cache request
      have next := ih answered.2
      simp only [Linked.run, Session.run, Session.request?, found, if_pos known]
      rw [answered.1, next.1]
      exact ⟨rfl, next.2⟩
    · have lost : linked.places[handle]? = none := by
        rw [places, List.getElem?_replicate, if_neg known]
      have next := ih ⟨place, places, cache⟩
      simp only [Linked.run, Session.run, Session.request?, lost, if_neg known]
      rw [next.1]
      exact ⟨rfl, next.2⟩

end Follows

/-- Handles that refer to caches give the replies of a session with one cache, and see that cache
exactly if they exist. -/
theorem run_start (cache : Cache) (calls : List (Nat × Request)) :
    ((start cache).run calls).2 = ((Session.start cache).run calls).2 ∧
      ∀ handle, ((start cache).run calls).1.view? handle =
        if handle < ((Session.start cache).run calls).1.handles then
          some ((Session.start cache).run calls).1.cache
        else none := by
  have ran := (follows_start cache).run calls
  refine ⟨ran.1, fun handle => ?_⟩
  split
  · next known => exact ran.2.view?_eq known
  · next unknown => exact ran.2.view?_eq_none unknown

end Linked

end DotPath
