import BookIndex.Proofs.Xhtml.BackLinks

namespace BookIndex

/-- One list becomes another by steps in which two neighbours with different keys change places. -/
inductive Reordered {α κ : Type} (key : α → κ) : List α → List α → Prop
  | refl (l : List α) : Reordered key l l
  | pass {a b : α} (h : key a ≠ key b) (l : List α) : Reordered key (a :: b :: l) (b :: a :: l)
  | cons (a : α) {l m : List α} (h : Reordered key l m) : Reordered key (a :: l) (a :: m)
  | trans {l m n : List α} (h : Reordered key l m) (h' : Reordered key m n) : Reordered key l n

namespace Reordered

variable {α κ : Type} {key : α → κ}

theorem middle {a : α} {before : List α} (h : ∀ b ∈ before, key a ≠ key b) (after : List α) :
    Reordered key (a :: (before ++ after)) (before ++ a :: after) := by
  induction before with
  | nil => exact .refl _
  | cons b before ih =>
    obtain ⟨hb, hbefore⟩ := List.forall_mem_cons.1 h
    exact (pass hb _).trans (cons b (ih hbefore))

variable [DecidableEq κ]

/-- Reordering keeps the list of each key, and nothing else. -/
theorem iff_filter_eq {l m : List α} :
    Reordered key l m ↔ ∀ v, (l.filter fun a ↦ key a = v) = m.filter fun a ↦ key a = v := by
  constructor
  · intro h v
    induction h with
    | refl => rfl
    | @pass a b h l =>
      by_cases ha : key a = v
      · have hb : key b ≠ v := fun hb ↦ h (ha.trans hb.symm)
        simp [ha, hb]
      · simp [List.filter_cons, ha]
    | cons a _ ih => rw [List.filter_cons, List.filter_cons, ih]
    | trans _ _ ih ih' => exact ih.trans ih'
  · intro h
    induction l generalizing m with
    | nil =>
      cases m with
      | nil => exact .refl _
      | cons b m => simpa using h (key b)
    | cons a l ih =>
      have hfirst := h (key a)
      rw [List.filter_cons_of_pos (by simp)] at hfirst
      obtain ⟨before, after, rfl, hbefore, -, hafter⟩ := List.filter_eq_cons_iff.1 hfirst.symm
      have hne : ∀ b ∈ before, key a ≠ key b := by
        intro b hb he
        exact hbefore b hb (decide_eq_true he.symm)
      refine .trans (.cons a (ih ?_)) (middle hne after)
      intro v
      have hv := h v
      rw [List.filter_append, List.filter_cons, List.filter_cons] at hv
      rw [List.filter_append]
      by_cases ha : key a = v
      · have hnil : (before.filter fun b ↦ key b = v) = [] := by
          rw [List.filter_eq_nil_iff]
          intro b hb hv
          exact hne b hb (ha.trans (of_decide_eq_true hv).symm)
        rw [hnil, if_pos (decide_eq_true ha), if_pos (decide_eq_true ha)] at hv
        rw [hnil]
        exact (List.cons.inj hv).2
      · rwa [if_neg (by simpa using ha), if_neg (by simpa using ha)] at hv

end Reordered

namespace Xhtml

open Markup

variable {α : Type} (anchor : α → Text)

/-- The lower-case heading under which a row is sorted; a row that cannot be collected has none. -/
def Row.key? (o : Options) (row : Row α) : Option Heading :=
  (Item.ofRow o.separator o.escape row).toOption.map fun i ↦ i.key.lower

theorem collect_filter {o : Options} {rows : List (Row α)} {items : List (Item α)}
    (h : collect o.separator o.escape rows = .ok items) (v : Heading) :
    collect o.separator o.escape (rows.filter fun row ↦ row.key? o = some v) =
      .ok (withKey v items) := by
  rw [collect_eq_ok_iff] at h ⊢
  induction h with
  | nil => exact .nil
  | @cons row i rows items hi _ ih =>
    have hkey : row.key? o = some i.key.lower := by
      rw [Row.key?, hi]
      rfl
    by_cases hv : i.key.lower = v
    · rw [List.filter_cons_of_pos (by simp [hkey, hv]), withKey_cons_of_eq hv]
      exact .cons hi ih
    · rw [List.filter_cons_of_neg (by simp [hkey, hv]), withKey_cons_of_ne hv]
      exact ih

theorem key?_ne_none {o : Options} (hs : o.separator ≠ []) (row : Row α) : row.key? o ≠ none := by
  obtain ⟨markup, hm⟩ := exists_subentries hs row.markup
  obtain ⟨plain, hp⟩ := exists_subentries hs row.plain
  rw [Row.key?, Item.ofRow, hm, hp]
  exact Option.some_ne_none _

theorem sort_congr {items items' : List (Item α)} (h : ∀ v, withKey v items = withKey v items') :
    sort items = sort items' :=
  sort_eq (pairwise_sort items') fun v ↦ by rw [withKey_sort, h]

theorem print_congr (o : Options) (index : Option Text) {items items' : List (Item α)}
    (h : ∀ v, withKey v items = withKey v items') :
    print anchor o index items = print anchor o index items' := by
  have hempty : items.isEmpty = items'.isEmpty := by
    rw [Bool.eq_iff_iff, List.isEmpty_iff, List.isEmpty_iff, List.eq_nil_iff_forall_not_mem,
      List.eq_nil_iff_forall_not_mem]
    simp only [mem_iff_of_withKey_eq h]
  rw [print, print, sort_congr h, hempty]

theorem render_of_collect {o : Options} (index : Option Text) {rows : List (Row α)}
    {items : List (Item α)} (h : collect o.separator o.escape rows = .ok items) :
    render anchor o index rows = .ok (print anchor o index items) := by
  unfold render print
  cases o.prints index with
  | false => rfl
  | true =>
    rw [h]
    rfl

/-- Rows that are the same for each key print the same index, in whatever order the keys come. -/
theorem render_eq_of_filter_eq {o : Options} (hs : o.separator ≠ []) (index : Option Text)
    {rows rows' : List (Row α)}
    (h : ∀ v, (rows.filter fun row ↦ row.key? o = some v) =
      rows'.filter fun row ↦ row.key? o = some v) :
    Reordered (Row.key? o) rows rows' ∧
      ∃ output, render anchor o index rows = .ok output ∧
        render anchor o index rows' = .ok output := by
  constructor
  · rw [Reordered.iff_filter_eq]
    intro v
    cases v with
    | none =>
      have hnone : ∀ l : List (Row α), (l.filter fun row ↦ row.key? o = none) = [] := by
        intro l
        simp [key?_ne_none hs]
      rw [hnone, hnone]
    | some v => exact h v
  · obtain ⟨items, hitems⟩ := exists_collect hs o.escape rows
    obtain ⟨items', hitems'⟩ := exists_collect hs o.escape rows'
    have hkeys : ∀ v, withKey v items = withKey v items' := by
      intro v
      have hv := collect_filter hitems v
      rw [h, collect_filter hitems'] at hv
      exact (Except.ok.inj hv).symm
    refine ⟨_, render_of_collect anchor index hitems, ?_⟩
    rw [print_congr anchor o index hkeys]
    exact render_of_collect anchor index hitems'

/-- The rows of `repeatedRows`, first those of one key and then those of the other ones. -/
def groupedRows : List (Row Text) :=
  [⟨"Banana ! x@".toList, [], "p2".toList⟩, ⟨"banana ! X@".toList, [], "p4".toList⟩,
    ⟨"apple".toList, [], "p1".toList⟩, ⟨"APPLE|textbf".toList, "apple ! y".toList, "p3".toList⟩,
    ⟨"Apple".toList, [], "p5".toList⟩]

theorem render_eq_of_filter_eq_grouped : unalignedOptions.separator ≠ [] ∧
    (∀ v, (repeatedRows.filter fun row ↦ row.key? unalignedOptions = some v) =
      groupedRows.filter fun row ↦ row.key? unalignedOptions = some v) ∧
    Reordered (Row.key? unalignedOptions) repeatedRows groupedRows ∧
      ∃ output, render id unalignedOptions (some mainIndex) repeatedRows = .ok output ∧
        render id unalignedOptions (some mainIndex) groupedRows = .ok output := by
  have hs : unalignedOptions.separator ≠ [] := by decide
  have hreordered : Reordered (Row.key? unalignedOptions) repeatedRows groupedRows :=
    (Reordered.pass (by decide) _).trans <| .cons _ <|
      (Reordered.cons _ (.pass (by decide) _)).trans (.pass (by decide) _)
  have h := fun v ↦ Reordered.iff_filter_eq.1 hreordered (some v)
  exact ⟨hs, h, render_eq_of_filter_eq id hs (some mainIndex) h⟩

end Xhtml
end BookIndex
