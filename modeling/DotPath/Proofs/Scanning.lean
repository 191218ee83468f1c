import DotPath.Calendar.Internet
import DotPath.Calendar.Message

/-!
What the steps of calendar readers take off the front of a text.  A step for a number takes digits,
and only steps for signs and zone letters take those.
-/

set_option autoImplicit false
set_option relaxedAutoImplicit false

namespace DotPath.Calendar

/-- Holds if the second text is what the first one has behind some characters of a class. -/
def Takes (inClass : Char → Prop) (text rest : List Char) : Prop :=
  ∃ taken : List Char, text = taken ++ rest ∧ ∀ c ∈ taken, inClass c

section Steps

variable {text rest : List Char}

theorem literal?_eq_some_iff {c : Char} : literal? c text = some rest ↔ text = c :: rest := by
  cases text with
  | nil => simp [literal?]
  | cons first others =>
    simp only [literal?, List.cons.injEq]
    split
    · simp_all
    · simp_all

theorem takes_trimStart (text : List Char) :
    Takes (fun c => Text.isBlank c = true) text (Text.trimStart text) :=
  ⟨text.takeWhile Text.isBlank, List.takeWhile_append_dropWhile.symm,
    List.all_eq_true.mp List.all_takeWhile⟩

theorem takes_spanDigits (text : List Char) :
    Takes (fun c => c.isDigit = true) text (Text.spanDigits text).2 :=
  ⟨(Text.spanDigits text).1, (Text.spanDigits_append text).symm,
    List.all_eq_true.mp List.all_takeWhile⟩

theorem exists_digits_of_number? {least most n : Nat}
    (read : number? least most text = some (n, rest)) :
    ∃ digits : List Char, text = digits ++ rest ∧ (∀ c ∈ digits, c.isDigit = true) ∧
      least ≤ digits.length := by
  simp only [number?] at read
  split at read
  · cases read
  · rename_i enough
    cases read
    have front : (text.takeWhile Char.isDigit).take most <+: text :=
      (List.take_prefix _ _).trans (List.takeWhile_prefix _)
    refine ⟨_, (List.prefix_iff_eq_append.mp front).symm, ?_, Nat.le_of_not_lt enough⟩
    intro c member
    exact List.all_eq_true.mp List.all_takeWhile c (List.mem_of_mem_take member)

theorem takes_number? {least most n : Nat} (read : number? least most text = some (n, rest)) :
    Takes (fun c => c.isDigit = true) text rest := by
  obtain ⟨digits, whole, each, -⟩ := exists_digits_of_number? read
  exact ⟨digits, whole, each⟩

theorem takes_fraction? {n : Nat} (read : fraction? text = some (n, rest)) :
    Takes (fun c => c.isDigit = true ∨ c = '.') text rest := by
  unfold fraction? at read
  split at read
  · rename_i behind
    obtain ⟨run, whole, each⟩ := takes_spanDigits behind
    simp only [nanoseconds?] at read
    split at read
    · cases read
    · cases read
      refine ⟨'.' :: run, congrArg (List.cons '.') whole, ?_⟩
      intro c member
      rcases List.mem_cons.mp member with point | digit
      · exact .inr point
      · exact .inl (each c digit)
  · cases read
    exact ⟨[], rfl, by simp⟩

end Steps

/-! Signs and zone letters -/

/-- The characters that stand for an offset or in front of its digits. -/
def signs : List Char :=
  ['+', '-', '\u2212', 'Z', 'z']

def signCount (text : List Char) : Nat :=
  text.countP (signs.contains ·)

theorem signCount_cons (c : Char) (text : List Char) :
    signCount (c :: text) = signCount text + if c ∈ signs then 1 else 0 := by
  simp [signCount, List.countP_cons]

private theorem forall_mem_signs {property : Char → Prop} :
    (∀ c ∈ signs, property c) ↔
      property '+' ∧ property '-' ∧ property '\u2212' ∧ property 'Z' ∧ property 'z' := by
  simp only [signs, List.forall_mem_cons, List.not_mem_nil, false_implies, implies_true, and_true]

theorem signCount_eq_of_takes {inClass : Char → Prop} {text rest : List Char}
    (takes : Takes inClass text rest) (none : ∀ c ∈ signs, ¬inClass c) :
    signCount text = signCount rest := by
  obtain ⟨taken, rfl, each⟩ := takes
  have unsigned : taken.countP (signs.contains ·) = 0 := by
    rw [List.countP_eq_zero]
    intro c member sign
    exact none c (List.contains_iff_mem.mp sign) (each c member)
  rw [signCount, List.countP_append, unsigned, Nat.zero_add]
  rfl

section Counts

variable {text rest : List Char} {n : Nat}

theorem signCount_trimStart (text : List Char) :
    signCount (Text.trimStart text) = signCount text :=
  (signCount_eq_of_takes (takes_trimStart text) (forall_mem_signs.mpr (by decide))).symm

theorem signCount_number? {least most : Nat} (read : number? least most text = some (n, rest)) :
    signCount text = signCount rest :=
  signCount_eq_of_takes (takes_number? read) (forall_mem_signs.mpr (by decide))

theorem signCount_fraction? (read : fraction? text = some (n, rest)) :
    signCount text = signCount rest :=
  signCount_eq_of_takes (takes_fraction? read) (forall_mem_signs.mpr (by decide))

theorem signCount_literal? {c : Char} (read : literal? c text = some rest) :
    signCount text = signCount rest + if c ∈ signs then 1 else 0 := by
  rw [literal?_eq_some_iff.mp read, signCount_cons]

end Counts

/-! Numbers at the front of a text -/

theorem trimStart_of_not_blank {c : Char} (other : Text.isBlank c = false) (rest : List Char) :
    Text.trimStart (c :: rest) = c :: rest := by
  unfold Text.trimStart
  rw [List.dropWhile_cons_of_neg]
  simp [other]

theorem exists_digit_of_number? {least most n : Nat} (pos : 0 < least) {text rest : List Char}
    (read : number? least most text = some (n, rest)) :
    ∃ c behind, text = c :: behind ∧ c.isDigit = true := by
  obtain ⟨digits, rfl, each, enough⟩ := exists_digits_of_number? read
  obtain ⟨c, others, rfl⟩ := List.exists_cons_of_length_pos (Nat.lt_of_lt_of_le pos enough)
  exact ⟨c, others ++ rest, rfl, each c List.mem_cons_self⟩

theorem dropWhile_isDigit_of_number? {least most n : Nat} {text rest : List Char} {c : Char}
    (other : c.isDigit = false) (read : number? least most text = some (n, c :: rest)) :
    text.dropWhile Char.isDigit = c :: rest := by
  obtain ⟨digits, rfl, each, -⟩ := exists_digits_of_number? read
  rw [List.dropWhile_append_of_pos each, List.dropWhile_cons_of_neg]
  simp [other]

theorem year?_of_isDigit {c : Char} (digit : c.isDigit = true) (rest : List Char) :
    year? (c :: rest) = (number? 1 4 (c :: rest)).map fun (n, behind) => (n, behind) := by
  unfold year?
  split
  · rename_i same
    cases same
    cases digit
  · rename_i same
    cases same
    cases digit
  · rfl

end DotPath.Calendar
