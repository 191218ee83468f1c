import Mathlib.Data.List.Forall2

/-!
Collecting results along a list.  All of them come out in order, or nothing does: then the first
item without a result decides.
-/

set_option autoImplicit false
set_option relaxedAutoImplicit false

namespace DotPath.Collecting

variable {ε α β : Type}

theorem mapM_eq_some_iff {f : α → Option β} {items : List α} {results : List β} :
    items.mapM f = some results ↔
      List.Forall₂ (fun item result => f item = some result) items results := by
  induction items generalizing results with
  | nil => simp [eq_comm]
  | cons item rest ih =>
    rw [List.mapM_cons, List.forall₂_cons_left_iff]
    simp only [← ih, Option.bind_eq_bind, Option.bind_eq_some_iff, Option.pure_def,
      Option.some.injEq]
    constructor
    · rintro ⟨result, here, others, there, rfl⟩
      exact ⟨result, others, here, there, rfl⟩
    · rintro ⟨result, others, here, there, rfl⟩
      exact ⟨result, here, others, there, rfl⟩

private theorem bind_eq_ok_iff {first : Except ε α} {next : α → Except ε β} {result : β} :
    first >>= next = .ok result ↔ ∃ value, first = .ok value ∧ next value = .ok result := by
  cases first with
  | error failure => simp [bind, Except.bind]
  | ok value => simp [bind, Except.bind]

private theorem bind_eq_error_iff {first : Except ε α} {next : α → Except ε β} {failure : ε} :
    first >>= next = .error failure ↔
      first = .error failure ∨ ∃ value, first = .ok value ∧ next value = .error failure := by
  cases first with
  | error other => simp [bind, Except.bind]
  | ok value => simp [bind, Except.bind]

theorem mapM_eq_ok_iff {f : α → Except ε β} {items : List α} {results : List β} :
    items.mapM f = .ok results ↔
      List.Forall₂ (fun item result => f item = .ok result) items results := by
  induction items generalizing results with
  | nil => simp [pure, Except.pure, eq_comm]
  | cons item rest ih =>
    rw [List.mapM_cons, List.forall₂_cons_left_iff]
    simp only [← ih, bind_eq_ok_iff, pure, Except.pure, Except.ok.injEq]
    constructor
    · rintro ⟨result, here, others, there, rfl⟩
      exact ⟨result, others, here, there, rfl⟩
    · rintro ⟨result, others, here, there, rfl⟩
      exact ⟨result, here, others, there, rfl⟩

/-- Collecting fails exactly if some item does behind items that all succeed, and with its
failure. -/
theorem mapM_eq_error_iff {f : α → Except ε β} {items : List α} {failure : ε} :
    items.mapM f = .error failure ↔
      ∃ before item after, items = before ++ item :: after ∧
        (∀ earlier ∈ before, ∃ result, f earlier = .ok result) ∧ f item = .error failure := by
  induction items with
  | nil => simp [pure, Except.pure]
  | cons first rest ih =>
    rw [List.mapM_cons, bind_eq_error_iff]
    constructor
    · rintro (here | ⟨result, here, there⟩)
      · exact ⟨[], first, rest, rfl, by simp, here⟩
      · rw [bind_eq_error_iff] at there
        obtain there | ⟨others, _, impossible⟩ := there
        · obtain ⟨before, item, after, rfl, succeed, fails⟩ := ih.mp there
          refine ⟨first :: before, item, after, rfl, ?_, fails⟩
          intro earlier member
          rcases List.mem_cons.mp member with rfl | member
          · exact ⟨result, here⟩
          · exact succeed earlier member
        · cases impossible
    · rintro ⟨before, item, after, split, succeed, fails⟩
      cases before with
      | nil =>
        obtain ⟨rfl, rfl⟩ := List.cons.inj split
        exact .inl fails
      | cons head before =>
        obtain ⟨rfl, rfl⟩ := List.cons.inj split
        obtain ⟨result, here⟩ := succeed first List.mem_cons_self
        have there : (before ++ item :: after).mapM f = .error failure :=
          ih.mpr ⟨before, item, after, rfl,
            fun earlier member => succeed earlier (List.mem_cons_of_mem first member), fails⟩
        exact .inr ⟨result, here, bind_eq_error_iff.mpr (.inl there)⟩

theorem exists_forall₂_iff {R : β → α → Prop} {items : List α} :
    (∃ results, List.Forall₂ R results items) ↔ ∀ item ∈ items, ∃ result, R result item := by
  induction items with
  | nil => simp
  | cons item rest ih =>
    simp only [List.forall₂_cons_right_iff, List.forall_mem_cons, ← ih]
    constructor
    · rintro ⟨_, result, results, here, there, -⟩
      exact ⟨⟨result, here⟩, results, there⟩
    · rintro ⟨⟨result, here⟩, results, there⟩
      exact ⟨result :: results, result, results, here, there, rfl⟩

end DotPath.Collecting
