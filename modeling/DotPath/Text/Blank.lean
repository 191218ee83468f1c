/-!
Blank characters and trimming.  A character is blank when it has the Unicode property
White_Space; readers of scalar text drop blank characters at both ends before anything else.
-/

set_option autoImplicit false
set_option relaxedAutoImplicit false

namespace DotPath.Text

/-- The code points with the Unicode property White_Space, as closed intervals. -/
def blankRanges : List (Nat × Nat) :=
  [(0x9, 0xD), (0x20, 0x20), (0x85, 0x85), (0xA0, 0xA0), (0x1680, 0x1680), (0x2000, 0x200A),
    (0x2028, 0x2029), (0x202F, 0x202F), (0x205F, 0x205F), (0x3000, 0x3000)]

def inRanges (ranges : List (Nat × Nat)) (n : Nat) : Bool :=
  ranges.any fun range => range.1 ≤ n && n ≤ range.2

def isBlank (c : Char) : Bool :=
  inRanges blankRanges c.toNat

def trimStart (text : List Char) : List Char :=
  text.dropWhile isBlank

def trimEnd (text : List Char) : List Char :=
  (text.reverse.dropWhile isBlank).reverse

def trim (text : List Char) : List Char :=
  trimEnd (trimStart text)

theorem isBlank_eq_false_of_isDigit {c : Char} (digit : c.isDigit = true) : isBlank c = false := by
  simp only [Char.isDigit, Bool.and_eq_true, decide_eq_true_eq, UInt32.le_iff_toNat_le] at digit
  have low : 48 ≤ c.toNat := digit.1
  have high : c.toNat ≤ 57 := digit.2
  simp only [isBlank, inRanges, blankRanges, List.any_cons, List.any_nil, Bool.or_false,
    Bool.or_eq_false_iff, Bool.and_eq_false_iff, decide_eq_false_iff_not]
  omega

theorem trimStart_append_of_blank {before : List Char} (blank : ∀ c ∈ before, isBlank c = true)
    (text : List Char) : trimStart (before ++ text) = trimStart text := by
  unfold trimStart
  rw [List.dropWhile_append_of_pos blank]

theorem trimEnd_append_of_blank {after : List Char} (blank : ∀ c ∈ after, isBlank c = true)
    (text : List Char) : trimEnd (text ++ after) = trimEnd text := by
  unfold trimEnd
  rw [List.reverse_append, List.dropWhile_append_of_pos]
  intro c member
  exact blank c (List.mem_reverse.mp member)

private theorem dropWhile_blank {after : List Char} (blank : ∀ c ∈ after, isBlank c = true) :
    after.dropWhile isBlank = [] := by
  induction after with
  | nil => rfl
  | cons c rest ih =>
    rw [List.dropWhile_cons_of_pos (blank c List.mem_cons_self)]
    exact ih fun d member => blank d (List.mem_cons_of_mem c member)

theorem trim_append {before after : List Char} (blank_before : ∀ c ∈ before, isBlank c = true)
    (blank_after : ∀ c ∈ after, isBlank c = true) (text : List Char) :
    trim (before ++ text ++ after) = trim text := by
  unfold trim
  rw [List.append_assoc, trimStart_append_of_blank blank_before]
  unfold trimStart
  rw [List.dropWhile_append]
  split
  next all_blank =>
    rw [List.isEmpty_iff] at all_blank
    rw [dropWhile_blank blank_after, all_blank]
  next => exact trimEnd_append_of_blank blank_after _

theorem exists_trim_append (text : List Char) :
    ∃ before after : List Char, (∀ c ∈ before, isBlank c = true) ∧
      (∀ c ∈ after, isBlank c = true) ∧ text = before ++ trim text ++ after := by
  have front : text = text.takeWhile isBlank ++ trimStart text :=
    List.takeWhile_append_dropWhile.symm
  have back : trimStart text =
      trim text ++ ((trimStart text).reverse.takeWhile isBlank).reverse := by
    unfold trim trimEnd
    rw [← List.reverse_append, List.takeWhile_append_dropWhile, List.reverse_reverse]
  refine ⟨text.takeWhile isBlank, ((trimStart text).reverse.takeWhile isBlank).reverse, ?_, ?_, ?_⟩
  · exact List.all_eq_true.mp List.all_takeWhile
  · intro c member
    exact List.all_eq_true.mp List.all_takeWhile c (List.mem_reverse.mp member)
  · rw [List.append_assoc, ← back]
    exact front

private theorem dropWhile_of_not_blank {text : List Char}
    (not_blank : ∀ c ∈ text, isBlank c = false) : text.dropWhile isBlank = text := by
  cases text with
  | nil => rfl
  | cons c rest =>
    rw [List.dropWhile_cons_of_neg]
    simp [not_blank c List.mem_cons_self]

theorem trim_of_not_blank {text : List Char} (not_blank : ∀ c ∈ text, isBlank c = false) :
    trim text = text := by
  unfold trim trimEnd trimStart
  rw [dropWhile_of_not_blank not_blank, dropWhile_of_not_blank, List.reverse_reverse]
  intro c member
  exact not_blank c (List.mem_reverse.mp member)

end DotPath.Text
