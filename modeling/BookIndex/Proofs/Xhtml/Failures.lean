import BookIndex.Proofs.Fault
import BookIndex.Proofs.Xhtml.Grouping
import BookIndex.Xhtml.Render

namespace BookIndex.Xhtml

variable {α : Type}

theorem subentries_nil_error_iff (entry : Text) :
    (∃ e, subentries [] entry = .error e) ↔ entry ≠ [] := by
  unfold subentries
  cases entry with
  | nil => exact iff_of_false nofun (absurd rfl)
  | cons c s => exact iff_of_true ⟨_, rfl⟩ nofun

theorem ofRow_nil_error_iff (esc : Text) (row : Row α) :
    (∃ e, Item.ofRow [] esc row = .error e) ↔ row.markup ≠ [] ∨ row.plain ≠ [] := by
  rw [← subentries_nil_error_iff, ← subentries_nil_error_iff]
  unfold Item.ofRow
  exact exists_bind_bind_error_iff

theorem collect_error_iff (separator esc : Text) (rows : List (Row α)) :
    (∃ e, collect separator esc rows = .error e) ↔
      separator = [] ∧ ∃ row ∈ rows, row.markup ≠ [] ∨ row.plain ≠ [] := by
  by_cases hs : separator = []
  · subst hs
    rw [and_iff_right rfl]
    induction rows with
    | nil => exact iff_of_false nofun nofun
    | cons row rows ih =>
      rw [List.exists_mem_cons_iff, ← ih, ← ofRow_nil_error_iff esc row]
      unfold collect
      rw [List.mapM_cons]
      exact exists_bind_bind_error_iff
  · obtain ⟨items, hitems⟩ := exists_collect hs esc rows
    rw [hitems]
    exact iff_of_false nofun fun h ↦ hs h.1

theorem render_error_iff (anchor : α → Text) (o : Options) (index : Option Text)
    (rows : List (Row α)) :
    (∃ e, render anchor o index rows = .error e) ↔
      o.prints index = true ∧ o.separator = [] ∧
        ∃ row ∈ rows, row.markup ≠ [] ∨ row.plain ≠ [] := by
  rw [← collect_error_iff o.separator o.escape]
  unfold render
  cases o.prints index with
  | false => exact iff_of_false nofun fun h ↦ Bool.false_ne_true h.1
  | true =>
    rw [and_iff_right rfl, if_pos rfl]
    cases collect o.separator o.escape rows with
    | error e => exact iff_of_true ⟨e, rfl⟩ ⟨e, rfl⟩
    | ok items => exact iff_of_false nofun nofun

end BookIndex.Xhtml
