import DotPath.Address
import DotPath.Json.Reader
import DotPath.Shape
import Mathlib.Data.List.Induction
import Mathlib.Data.String.Basic

/-!
Documents in key order.  Every document that is read has the members of all its objects in key
order, and so has every node of it.  These are just the documents that do not change when they are
built again from their parts, as members in key order stay where they are when they are put one by
one into an empty object.
-/

set_option autoImplicit false
set_option relaxedAutoImplicit false

namespace DotPath

namespace Json

/-! Members -/

section Members

variable {α : Type} {members : List (String × α)}

theorem insertMember_of_last {key : String} (last : ∀ member ∈ members, member.1 < key)
    (value : α) : insertMember key value members = members ++ [(key, value)] := by
  induction members with
  | nil => rfl
  | cons first rest ih =>
    obtain ⟨less, others⟩ := List.forall_mem_cons.mp last
    rw [insertMember, if_neg (lt_asymm less), if_neg less.ne', ih others, List.cons_append]

theorem sortMembers_of_inKeyOrder (ordered : InKeyOrder members) :
    sortMembers members = members := by
  induction members using List.reverseRecOn with
  | nil => rfl
  | append_singleton members last ih =>
    obtain ⟨before, -, less⟩ := List.pairwise_append.mp ordered
    have sorted : sortMembers (members ++ [last]) =
        insertMember last.1 last.2 (sortMembers members) := List.foldl_append
    rw [sorted, ih before, insertMember_of_last]
    exact fun member listed => less member listed last (List.mem_singleton_self last)

theorem mem_of_lookup {key : String} {value : α} (found : members.lookup key = some value) :
    (key, value) ∈ members := by
  obtain ⟨before, after, rfl, -⟩ := List.lookup_eq_some_iff.mp found
  exact List.mem_append_right before List.mem_cons_self

end Members

/-! Documents -/

/-- Documents that have the members of every object in key order. -/
inductive IsOrdered : Json → Prop
  | null : IsOrdered .null
  | bool (value : Bool) : IsOrdered (.bool value)
  | number (value : Number) : IsOrdered (.number value)
  | string (text : String) : IsOrdered (.string text)
  | array {items : List Json} (parts : ∀ item ∈ items, IsOrdered item) : IsOrdered (.array items)
  | object {members : List (String × Json)} (order : InKeyOrder members)
      (parts : ∀ member ∈ members, IsOrdered member.2) : IsOrdered (.object members)

theorem rebuiltItems_eq_map (items : List Json) : rebuiltItems items = items.map rebuilt := by
  induction items with
  | nil => rfl
  | cons item rest ih => rw [rebuiltItems, ih, List.map_cons]

theorem rebuiltMembers_eq_map (members : List (String × Json)) :
    rebuiltMembers members = members.map fun member => (member.1, member.2.rebuilt) := by
  induction members with
  | nil => rfl
  | cons member rest ih => rw [rebuiltMembers, ih, List.map_cons]

theorem IsOrdered.rebuilt_eq {node : Json} (ordered : node.IsOrdered) : node.rebuilt = node := by
  induction ordered with
  | null | bool | number | string => rfl
  | @array items parts ih =>
    have same : items.map rebuilt = items := (List.map_congr_left ih).trans (List.map_id' items)
    rw [rebuilt, rebuiltItems_eq_map, same]
  | @object members order parts ih =>
    have same : (members.map fun member => (member.1, member.2.rebuilt)) = members := by
      have each : ∀ member ∈ members, (member.1, member.2.rebuilt) = member :=
        fun member listed => Prod.ext rfl (ih member listed)
      exact (List.map_congr_left each).trans (List.map_id' members)
    rw [rebuilt, rebuiltMembers_eq_map, same, ofMembers, sortMembers_of_inKeyOrder order]

theorem IsOrdered.ofMembers {members : List (String × Json)}
    (parts : ∀ member ∈ members, member.2.IsOrdered) : (Json.ofMembers members).IsOrdered :=
  .object (inKeyOrder_sortMembers members) fun member listed =>
    parts member (mem_of_mem_sortMembers listed)

mutual

theorem isOrdered_rebuilt : (node : Json) → node.rebuilt.IsOrdered
  | .null => .null
  | .bool value => .bool value
  | .number value => .number value
  | .string text => .string text
  | .array items => .array (isOrdered_rebuiltItems items)
  | .object members => .ofMembers (isOrdered_rebuiltMembers members)

theorem isOrdered_rebuiltItems : (items : List Json) → ∀ item ∈ rebuiltItems items, item.IsOrdered
  | [] => List.forall_mem_nil _
  | item :: rest =>
      List.forall_mem_cons.mpr ⟨isOrdered_rebuilt item, isOrdered_rebuiltItems rest⟩

theorem isOrdered_rebuiltMembers : (members : List (String × Json)) →
    ∀ member ∈ rebuiltMembers members, member.2.IsOrdered
  | [] => List.forall_mem_nil _
  | (_, value) :: rest =>
      List.forall_mem_cons.mpr ⟨isOrdered_rebuilt value, isOrdered_rebuiltMembers rest⟩

end

theorem rebuilt_eq_self_iff {node : Json} : node.rebuilt = node ↔ node.IsOrdered :=
  ⟨fun same => same ▸ isOrdered_rebuilt node, IsOrdered.rebuilt_eq⟩

/-! Nodes of a document -/

theorem IsOrdered.child? {node part : Json} {step : Step} (ordered : node.IsOrdered)
    (reached : node.child? step = some part) : part.IsOrdered := by
  cases ordered with
  | null | bool | number | string => cases step <;> cases reached
  | array parts =>
    cases step with
    | key name => cases reached
    | index place => exact parts part (List.mem_of_getElem? reached)
  | object order parts =>
    cases step with
    | key name => exact parts (name, part) (mem_of_lookup reached)
    | index place => cases reached

theorem IsOrdered.at? {root node : Json} {steps : List Step} (ordered : root.IsOrdered)
    (reached : root.at? steps = some node) : node.IsOrdered := by
  induction steps generalizing root with
  | nil =>
    cases reached
    exact ordered
  | cons step rest ih =>
    obtain ⟨part, first, behind⟩ := Option.bind_eq_some_iff.mp reached
    exact ih (ordered.child? first) behind

/-! Reading -/

def Token.IsOrdered : Token → Prop
  | .scalar value => value.IsOrdered
  | _ => True

theorem Token.isOrdered_of_unsigned? {negative : Bool} {text behind : List Char} {token : Token}
    (read : unsigned? negative text = some (token, behind)) : token.IsOrdered := by
  simp only [unsigned?, Option.bind_eq_bind] at read
  split at read
  all_goals
    split at read
    · cases read
    · simp only [Option.bind_eq_some_iff, Prod.exists] at read
      obtain ⟨fraction, _, -, exponent, _, -, number, -, same⟩ := read
      cases same
      exact .number number

theorem Token.isOrdered_of_next? {text behind : List Char} {token : Token}
    (read : next? text = some (token, behind)) : token.IsOrdered := by
  unfold next? at read
  split at read
  case h_7 rest =>
    obtain ⟨⟨content, _⟩, -, same⟩ := Option.map_eq_some_iff.mp read
    cases same
    trivial
  case h_8 => cases read; exact .null
  case h_9 => cases read; exact .bool true
  case h_10 => cases read; exact .bool false
  case h_11 rest => exact isOrdered_of_unsigned? read
  case h_12 => exact isOrdered_of_unsigned? read
  -- brackets and separators hold nothing
  all_goals
    cases read
    trivial

theorem Token.isOrdered_of_upTo? {fuel : Nat} {text : List Char} {tokens : List Token}
    (read : upTo? fuel text = some tokens) : ∀ token ∈ tokens, token.IsOrdered := by
  induction fuel generalizing text tokens with
  | zero =>
    unfold upTo? at read
    split at read
    · cases read
      exact List.forall_mem_nil _
    · cases read
  | succ fuel ih =>
    unfold upTo? at read
    split at read
    · cases read
      exact List.forall_mem_nil _
    · simp only [Option.bind_eq_bind, Option.bind_eq_some_iff, Prod.exists] at read
      obtain ⟨token, behind, first, others, rest, same⟩ := read
      cases same
      exact List.forall_mem_cons.mpr ⟨isOrdered_of_next? first, ih rest⟩

def Frame.IsOrdered : Frame → Prop
  | .array items => ∀ item ∈ items, item.IsOrdered
  | .object members _ => ∀ member ∈ members, member.2.IsOrdered

/-- States of the reader of which all that has been read is in key order. -/
inductive State.IsOrdered : State → Prop
  | valueDue {frames : List Frame} {mayClose : Bool}
      (outer : ∀ frame ∈ frames, frame.IsOrdered) : IsOrdered (.valueDue frames mayClose)
  | keyDue {members : List (String × Json)} {frames : List Frame} {mayClose : Bool}
      (parts : ∀ member ∈ members, member.2.IsOrdered)
      (outer : ∀ frame ∈ frames, frame.IsOrdered) : IsOrdered (.keyDue members frames mayClose)
  | colonDue {members : List (String × Json)} {key : String} {frames : List Frame}
      (parts : ∀ member ∈ members, member.2.IsOrdered)
      (outer : ∀ frame ∈ frames, frame.IsOrdered) : IsOrdered (.colonDue members key frames)
  | behindValue {value : Json} {frames : List Frame} (itself : value.IsOrdered)
      (outer : ∀ frame ∈ frames, frame.IsOrdered) : IsOrdered (.behindValue value frames)

namespace State

theorem isOrdered_startValue {frames : List Frame} {token : Token} {next : State}
    (outer : ∀ frame ∈ frames, frame.IsOrdered) (scalar : token.IsOrdered)
    (starts : startValue frames token = some next) : next.IsOrdered := by
  unfold startValue at starts
  split at starts
  next value =>
    cases starts
    exact .behindValue scalar outer
  next content =>
    cases starts
    exact .behindValue (.string content) outer
  next =>
    split at starts
    · cases starts
      exact .valueDue (List.forall_mem_cons.mpr ⟨List.forall_mem_nil _, outer⟩)
    · cases starts
  next =>
    split at starts
    · cases starts
      exact .keyDue (List.forall_mem_nil _) outer
    · cases starts
  next => cases starts

theorem isOrdered_step {state next : State} {token : Token} (ordered : state.IsOrdered)
    (scalar : token.IsOrdered) (steps : state.step token = some next) : next.IsOrdered := by
  unfold step at steps
  split at steps
  next frames =>
    cases ordered with
    | valueDue outer =>
      cases steps
      exact .behindValue (.array (List.forall_mem_nil _)) (List.forall_mem_cons.mp outer).2
  next frames mayClose token _ =>
    cases ordered with
    | valueDue outer => exact isOrdered_startValue outer scalar steps
  next members frames =>
    cases ordered with
    | keyDue parts outer =>
      cases steps
      exact .behindValue (.object List.Pairwise.nil (List.forall_mem_nil _)) outer
  next members frames mayClose key =>
    cases ordered with
    | keyDue parts outer =>
      cases steps
      exact .colonDue parts outer
  next members key frames =>
    cases ordered with
    | colonDue parts outer =>
      cases steps
      exact .valueDue (List.forall_mem_cons.mpr ⟨parts, outer⟩)
  next value items frames =>
    cases ordered with
    | behindValue itself outer =>
      obtain ⟨parts, others⟩ := List.forall_mem_cons.mp outer
      cases steps
      refine .valueDue (List.forall_mem_cons.mpr ⟨?_, others⟩)
      exact List.forall_mem_cons.mpr ⟨itself, parts⟩
  next value items frames =>
    cases ordered with
    | behindValue itself outer =>
      obtain ⟨parts, others⟩ := List.forall_mem_cons.mp outer
      cases steps
      refine .behindValue (.array fun item listed => ?_) others
      exact List.forall_mem_cons.mpr ⟨itself, parts⟩ item (List.mem_reverse.mp listed)
  next value members key frames =>
    cases ordered with
    | behindValue itself outer =>
      obtain ⟨parts, others⟩ := List.forall_mem_cons.mp outer
      cases steps
      exact .keyDue (List.forall_mem_cons.mpr ⟨itself, parts⟩) others
  next value members key frames =>
    cases ordered with
    | behindValue itself outer =>
      obtain ⟨parts, others⟩ := List.forall_mem_cons.mp outer
      have all : ∀ member ∈ (key, value) :: members, member.2.IsOrdered :=
        List.forall_mem_cons.mpr ⟨itself, parts⟩
      cases steps
      refine .behindValue (.ofMembers fun member listed => ?_) others
      exact all member (List.mem_reverse.mp listed)
  next => cases steps

theorem isOrdered_foldlM {tokens : List Token} {state last : State} (ordered : state.IsOrdered)
    (scalars : ∀ token ∈ tokens, token.IsOrdered) (runs : tokens.foldlM step state = some last) :
    last.IsOrdered := by
  induction tokens generalizing state with
  | nil =>
    cases runs
    exact ordered
  | cons token rest ih =>
    obtain ⟨scalar, others⟩ := List.forall_mem_cons.mp scalars
    rw [List.foldlM_cons] at runs
    obtain ⟨next, steps, behind⟩ := Option.bind_eq_some_iff.mp runs
    exact ih (isOrdered_step ordered scalar steps) others behind

end State

theorem isOrdered_of_ofString? {text : String} {root : Json} (read : ofString? text = some root) :
    root.IsOrdered := by
  obtain ⟨tokens, spelled, read⟩ := Option.bind_eq_some_iff.mp read
  unfold ofTokens? at read
  split at read
  next value runs =>
    cases read
    have start : (State.valueDue [] false).IsOrdered := .valueDue (List.forall_mem_nil _)
    have last := State.isOrdered_foldlM start (Token.isOrdered_of_upTo? spelled) runs
    cases last with
    | behindValue itself outer => exact itself
  next => cases read

end Json

end DotPath
