import DotPath.Reading.Target

/-!
A cache of compiled paths.  It keeps the first paths that compile, in the order in which they were
asked for, until its capacity is reached; nothing is ever dropped or replaced.  Every compilation
has a serial number, so that it shows whether two requests were answered by the same one.
-/

set_option autoImplicit false
set_option relaxedAutoImplicit false

namespace DotPath

structure Compilation where
  serial : Nat
  path : Path

/-- The compiled paths that are kept, by source text.  A cache without a capacity keeps none. -/
structure Cache where
  capacity : Option Nat
  entries : List (String × Compilation)
  nextSerial : Nat

namespace Cache

def defaultCapacity : Nat := 1024

def withCapacity (capacity : Nat) : Cache :=
  ⟨some capacity, [], 0⟩

def uncached : Cache :=
  ⟨none, [], 0⟩

def size (cache : Cache) : Nat :=
  cache.entries.length

def sources (cache : Cache) : List String :=
  cache.entries.map Prod.fst

/-- Keeps a new compilation if there is room for it. -/
def store (cache : Cache) (source : String) (path : Path) : Cache × Logged Compilation :=
  let compilation : Compilation := ⟨cache.nextSerial, path⟩
  let numbered := { cache with nextSerial := cache.nextSerial + 1 }
  match cache.capacity with
  | none => (numbered, pure compilation)
  | some capacity =>
      if cache.size < capacity then
        ({ numbered with entries := cache.entries ++ [(source, compilation)] }, pure compilation)
      else
        (numbered, do
          Logged.note (.cacheFull source capacity)
          pure compilation)

def compiled (cache : Cache) (source : String) : Cache × Logged Compilation :=
  match cache.entries.lookup source with
  | some compilation => (cache, pure compilation)
  | none =>
      let compiling := Path.compileLogged source
      match compiling.outcome with
      | .error failure => (cache, ⟨compiling.events, .error failure⟩)
      | .ok path =>
          let (stored, storing) := cache.store source path
          (stored, compiling >>= fun _ => storing)

def locate (cache : Cache) (root : Json) (source : String) : Cache × Logged Located :=
  let (next, compiling) := cache.compiled source
  (next, compiling >>= fun compilation => compilation.path.evaluate root)

def extract (cache : Cache) (root : Json) (source : String) (target : Target) :
    Cache × Logged Answer :=
  let (next, locating) := cache.locate root source
  (next, locating >>= target.read)

end Cache

end DotPath
