import DotPath.Json.Number

/-!
JSON documents as trees.  The members of an object are kept in increasing order of their keys, code
point by code point, and a key that is given again replaces the value it had.
-/

set_option autoImplicit false
set_option relaxedAutoImplicit false

namespace DotPath

open Json (Number)

inductive Json where
  | null
  | bool (value : Bool)
  | number (value : Number)
  | string (text : String)
  | array (items : List Json)
  | object (members : List (String × Json))

namespace Json

/-- Puts a member in its place among members in key order; a member with the same key gives way. -/
def insertMember {α : Type} (key : String) (value : α) :
    List (String × α) → List (String × α)
  | [] => [(key, value)]
  | (otherKey, otherValue) :: rest =>
      if key < otherKey then (key, value) :: (otherKey, otherValue) :: rest
      else if key = otherKey then (key, value) :: rest
      else (otherKey, otherValue) :: insertMember key value rest

theorem lookup_cons {α : Type} (key other : String) (value : α)
    (members : List (String × α)) :
    ((key, value) :: members).lookup other =
      if other = key then some value else members.lookup other := by
  rw [List.lookup_cons]
  by_cases same : other = key
  · simp [same]
  · simp [same, beq_eq_false_iff_ne.2 same]

theorem lookup_insertMember {α : Type} (key other : String) (value : α)
    (members : List (String × α)) :
    (insertMember key value members).lookup other =
      if other = key then some value else members.lookup other := by
  induction members with
  | nil => simp [insertMember, lookup_cons]
  | cons first rest ih =>
    obtain ⟨firstKey, firstValue⟩ := first
    unfold insertMember
    split
    · simp [lookup_cons]
    · split
      · simp_all [lookup_cons]
      · grind [lookup_cons]

def InKeyOrder {α : Type} (members : List (String × α)) : Prop :=
  members.Pairwise fun left right => left.1 < right.1

theorem mem_insertMember {α : Type} {key : String} {value : α}
    {members : List (String × α)} {member : String × α}
    (mem : member ∈ insertMember key value members) :
    member = (key, value) ∨ member ∈ members := by
  fun_induction insertMember key value members with grind

theorem inKeyOrder_insertMember {α : Type} {members : List (String × α)}
    (ordered : InKeyOrder members) (key : String) (value : α) :
    InKeyOrder (insertMember key value members) := by
  fun_induction insertMember key value members with
  | case1 => simp [InKeyOrder]
  | case2 firstKey firstValue rest less =>
    refine List.pairwise_cons.2 ⟨fun member mem => ?_, ordered⟩
    cases mem with
    | head => exact less
    | tail _ mem => exact String.lt_trans less ((List.pairwise_cons.1 ordered).1 member mem)
  | case3 firstValue rest less =>
    exact List.pairwise_cons.2 (List.pairwise_cons.1 ordered)
  | case4 firstKey firstValue rest not_less ne ih =>
    have parts := List.pairwise_cons.1 ordered
    refine List.pairwise_cons.2 ⟨fun member mem => ?_, ih parts.2⟩
    rcases mem_insertMember mem with rfl | mem
    · exact Decidable.byContradiction fun not_greater =>
        ne (String.le_antisymm (String.not_lt.1 not_greater) (String.not_lt.1 not_less))
    · exact parts.1 member mem

/-- Members in key order; of several members with one key the last one counts. -/
def sortMembers {α : Type} (members : List (String × α)) : List (String × α) :=
  members.foldl (fun sorted member => insertMember member.1 member.2 sorted) []

theorem inKeyOrder_sortMembers {α : Type} (members : List (String × α)) :
    InKeyOrder (sortMembers members) :=
  List.foldlRecOn members _ List.Pairwise.nil fun _ ordered member _ =>
    inKeyOrder_insertMember ordered member.1 member.2

theorem mem_of_mem_sortMembers {α : Type} {member : String × α} {members : List (String × α)}
    (mem : member ∈ sortMembers members) : member ∈ members := by
  have all : ∀ other ∈ sortMembers members, other ∈ members := by
    refine List.foldlRecOn (motive := fun sorted => ∀ other ∈ sorted, other ∈ members) members _
      (List.forall_mem_nil _) fun sorted kept next listed other inserted => ?_
    rcases mem_insertMember inserted with rfl | before
    · exact listed
    · exact kept other before
  exact all member mem

def ofMembers (members : List (String × Json)) : Json :=
  .object (sortMembers members)

def member? (key : String) (members : List (String × Json)) : Option Json :=
  members.lookup key

end Json

end DotPath
