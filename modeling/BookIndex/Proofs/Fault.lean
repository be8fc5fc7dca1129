import Mathlib.Data.List.Basic

namespace BookIndex

section

variable {ε α β γ : Type} {x : Except ε α} {f : α → Except ε β}

theorem not_exists_ok_eq_error {a : α} : ¬∃ e : ε, Except.ok a = .error e := by
  rintro ⟨e, he⟩
  cases he

theorem bind_eq_ok_iff {b : β} : (x >>= f) = .ok b ↔ ∃ a, x = .ok a ∧ f a = .ok b := by
  cases x with
  | error e =>
    refine iff_of_false ?_ ?_
    · intro h
      cases h
    · rintro ⟨a, ha, -⟩
      cases ha
  | ok a =>
    constructor
    · exact fun h ↦ ⟨a, rfl, h⟩
    · rintro ⟨_, ha, h⟩
      cases ha
      exact h

theorem exists_bind_error_iff :
    (∃ e, (x >>= f) = .error e) ↔
      (∃ e, x = .error e) ∨ ∃ a, x = .ok a ∧ ∃ e, f a = .error e := by
  cases x with
  | error e => exact iff_of_true ⟨e, rfl⟩ (.inl ⟨e, rfl⟩)
  | ok a =>
    rw [or_iff_right not_exists_ok_eq_error]
    constructor
    · exact fun h ↦ ⟨a, rfl, h⟩
    · rintro ⟨_, ha, h⟩
      cases ha
      exact h

/-- Two computations that do not depend on each other fail if one of them does. -/
theorem exists_bind_bind_error_iff {y : Except ε β} {g : α → β → γ} :
    (∃ e, (x >>= fun a ↦ y >>= fun b ↦ pure (g a b)) = .error e) ↔
      (∃ e, x = .error e) ∨ ∃ e, y = .error e := by
  cases x with
  | error e => exact iff_of_true ⟨e, rfl⟩ (.inl ⟨e, rfl⟩)
  | ok a =>
    rw [or_iff_right not_exists_ok_eq_error]
    cases y with
    | error e => exact iff_of_true ⟨e, rfl⟩ ⟨e, rfl⟩
    | ok b => exact iff_of_false not_exists_ok_eq_error not_exists_ok_eq_error

end

section

variable {α : Type} {good bad : α → Prop}

theorem not_exists_first_nil :
    ¬∃ before a after, [] = before ++ a :: after ∧ (∀ b ∈ before, good b) ∧ bad a := by
  rintro ⟨before, a, after, h, -⟩
  exact List.append_ne_nil_of_right_ne_nil before (List.cons_ne_nil a after) h.symm

/-- A list has a first bad item if its head is bad, or good and in front of a list that has one. -/
theorem exists_first_cons_iff {first : α} {l : List α} :
    (∃ before a after, first :: l = before ++ a :: after ∧ (∀ b ∈ before, good b) ∧ bad a) ↔
      bad first ∨ good first ∧
        ∃ before a after, l = before ++ a :: after ∧ (∀ b ∈ before, good b) ∧ bad a := by
  constructor
  · rintro ⟨before, a, after, h, hbefore, ha⟩
    cases before with
    | nil =>
      cases h
      exact .inl ha
    | cons b before =>
      cases h
      obtain ⟨hfirst, hbefore⟩ := List.forall_mem_cons.1 hbefore
      exact .inr ⟨hfirst, before, a, after, rfl, hbefore, ha⟩
  · rintro (ha | ⟨hfirst, before, a, after, rfl, hbefore, ha⟩)
    · exact ⟨[], first, l, rfl, nofun, ha⟩
    · exact ⟨first :: before, a, after, rfl, List.forall_mem_cons.2 ⟨hfirst, hbefore⟩, ha⟩

end

end BookIndex
