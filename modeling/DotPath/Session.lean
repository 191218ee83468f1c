import DotPath.Cache

/-!
Sessions: calls through any number of handles that share one cache.  A handle is made by cloning
another one, and all handles see the same cache.
-/

set_option autoImplicit false
set_option relaxedAutoImplicit false

namespace DotPath

/-- A shared cache and the number of handles to it; the handles are the numbers below. -/
structure Session where
  cache : Cache
  handles : Nat

inductive Request where
  | clone
  | compiled (source : String)
  | locate (root : Json) (source : String)
  | extract (root : Json) (source : String) (target : Target)

inductive Reply where
  | handle (number : Nat)
  | compiled (result : Logged Compilation)
  | located (result : Logged Located)
  | extracted (result : Logged Answer)

namespace Session

def start (cache : Cache) : Session :=
  ⟨cache, 1⟩

def answer (session : Session) : Request → Session × Reply
  | .clone => ({ session with handles := session.handles + 1 }, .handle session.handles)
  | .compiled source =>
      let (cache, result) := session.cache.compiled source
      ({ session with cache }, .compiled result)
  | .locate root source =>
      let (cache, result) := session.cache.locate root source
      ({ session with cache }, .located result)
  | .extract root source target =>
      let (cache, result) := session.cache.extract root source target
      ({ session with cache }, .extracted result)

/-- Answers a request through a handle, if there is such a handle. -/
def request? (session : Session) (handle : Nat) (request : Request) : Option (Session × Reply) :=
  if handle < session.handles then some (session.answer request) else none

/-- Answers requests one after another; a request through a handle that does not exist changes
nothing. -/
def run (session : Session) : List (Nat × Request) → Session × List (Option Reply)
  | [] => (session, [])
  | (handle, request) :: rest =>
      match session.request? handle request with
      | some (next, reply) =>
          let (last, replies) := next.run rest
          (last, some reply :: replies)
      | none =>
          let (last, replies) := session.run rest
          (last, none :: replies)

end Session

end DotPath
