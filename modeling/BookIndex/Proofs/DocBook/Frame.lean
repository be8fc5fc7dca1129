import BookIndex.Proofs.DocBook.Session

namespace BookIndex.DocBook

open Markup

section

variable (o : Options)

def closes (entry : Text × Option Text) : Bool :=
  (parse o.escape (Text.trim entry.1)).command.kind == .rangeEnd

def pathOf (entry : Text × Option Text) : Text := (parse o.escape (Text.trim entry.1)).termPath

/-- The range table behind the last entry of a document. -/
def tableAfter (t : RangeTable) (entries : List (Text × Option Text)) : RangeTable :=
  ((renderAll o t entries).getLast?.map Result.table).getD t

end

/-- The members of a list whose places are kept. -/
def kept {β : Type} : (ℕ → Bool) → List β → List β
  | _, [] => []
  | keep, b :: l =>
    if keep 0 then b :: kept (fun k ↦ keep (k + 1)) l else kept (fun k ↦ keep (k + 1)) l

variable {o : Options} {entries : List (Text × Option Text)}

theorem closed?_eq (entry : Text × Option Text) : (mark? o entry).bind Mark.closed? =
    if closes o entry then some (pathOf o entry) else none := by
  unfold mark? closes pathOf
  cases hk : (parse o.escape (Text.trim entry.1)).command.kind <;>
    simp [hk, Mark.closed?]

theorem closedPaths_eq : (entries.filterMap fun e ↦ (mark? o e).bind Mark.closed?) =
    (entries.filter (closes o)).map (pathOf o) := by
  simp only [closed?_eq]
  induction entries with
  | nil => rfl
  | cons entry entries ih =>
    rw [List.filterMap_cons, List.filter_cons, ih]
    cases closes o entry <;> rfl

theorem tableAfter_cons (t : RangeTable) (entry : Text × Option Text) :
    tableAfter o t (entry :: entries) =
      tableAfter o (render o t entry.1 entry.2).table entries := by
  unfold tableAfter
  rw [renderAll, List.getLast?_cons]
  cases (renderAll o (render o t entry.1 entry.2).table entries).getLast? <;> rfl

theorem tableAfter_eq (t : RangeTable) : tableAfter o t entries =
    t.closeAll (entries.filterMap fun e ↦ (mark? o e).bind Mark.closed?) := by
  induction entries generalizing t with
  | nil => rfl
  | cons entry entries ih =>
    rw [tableAfter_cons, ih, render_table, List.filterMap_cons]
    cases (mark? o entry).bind Mark.closed? <;> rfl

theorem tracks_tableAfter :
    (tableAfter o .empty entries).Tracks ((entries.filter (closes o)).map (pathOf o)) := by
  rw [tableAfter_eq, closedPaths_eq]
  exact RangeTable.tracks_empty.closeAll _

theorem render_table_of_not_closes (t : RangeTable) {entry : Text × Option Text}
    (h : closes o entry = false) : (render o t entry.1 entry.2).table = t := by
  rw [render_table, closed?_eq, h]
  rfl

theorem renderAll_kept (t : RangeTable) {keep : ℕ → Bool}
    (h : ∀ k (hk : k < entries.length), closes o entries[k] = true → keep k = true) :
    renderAll o t (kept keep entries) = kept keep (renderAll o t entries) := by
  induction entries generalizing t keep with
  | nil => rfl
  | cons entry entries ih =>
    have hrest : ∀ k (hk : k < entries.length), closes o entries[k] = true → keep (k + 1) = true :=
      fun k hk hc ↦ h (k + 1) (Nat.succ_lt_succ hk) hc
    cases hkeep : keep 0 with
    | true => simp [renderAll, kept, hkeep, ih _ hrest]
    | false =>
      have hopen : closes o entry = false := by
        by_contra hc
        have hz := h 0 (Nat.zero_lt_succ _) (by simpa using hc)
        rw [hkeep] at hz
        cases hz
      simp [renderAll, kept, hkeep, ih _ hrest, render_table_of_not_closes t hopen]

/-- The table behind a document holds the term paths of its ends and counts the repeated ones, and
the results of the entries that are kept are the same without the others, if every end is kept. -/
theorem session_from_ends (o : Options) (entries : List (Text × Option Text)) :
    ((∀ p, p ∈ (tableAfter o .empty entries).seen ↔
        ∃ e ∈ entries, closes o e = true ∧ pathOf o e = p) ∧
      (tableAfter o .empty entries).seen.Nodup ∧
      (tableAfter o .empty entries).counter + (tableAfter o .empty entries).seen.length =
        (entries.filter (closes o)).length) ∧
    ∀ keep : ℕ → Bool,
      (∀ k (hk : k < entries.length), closes o entries[k] = true → keep k = true) →
      renderAll o .empty (kept keep entries) = kept keep (renderAll o .empty entries) := by
  have h : (tableAfter o .empty entries).Tracks _ := tracks_tableAfter
  refine ⟨⟨fun p ↦ ?_, h.nodup, ?_⟩, fun keep hkeep ↦ renderAll_kept .empty hkeep⟩
  · rw [h.mem_seen, List.mem_map]
    constructor
    · rintro ⟨e, he, hp⟩
      obtain ⟨he, hc⟩ := List.mem_filter.1 he
      exact ⟨e, he, hc, hp⟩
    · rintro ⟨e, he, hc, hp⟩
      exact ⟨e, List.mem_filter.2 ⟨he, hc⟩, hp⟩
  · rw [h.counter, List.length_map]

/-- The third end is of a path that was closed before, and the last one has no term at all. -/
def repeated : List (Text × Option Text) :=
  ["A|(", "B|see\x7bA\x7d", "A|)", "|textbf", "A|(", "A!|)", "|)"].map fun s ↦ (s.toList, none)

theorem session_from_ends_repeated :
    (∀ k (hk : k < repeated.length), closes standard repeated[k] = true → decide (1 < k) = true) ∧
    (((∀ p, p ∈ (tableAfter standard .empty repeated).seen ↔
        ∃ e ∈ repeated, closes standard e = true ∧ pathOf standard e = p) ∧
      (tableAfter standard .empty repeated).seen.Nodup ∧
      (tableAfter standard .empty repeated).counter +
          (tableAfter standard .empty repeated).seen.length =
        (repeated.filter (closes standard)).length) ∧
    renderAll standard .empty (kept (1 < ·) repeated) =
      kept (1 < ·) (renderAll standard .empty repeated)) := by
  have hkeep : ∀ k (hk : k < repeated.length),
      closes standard repeated[k] = true → decide (1 < k) = true := by decide +kernel
  obtain ⟨htable, hresults⟩ := session_from_ends standard repeated
  exact ⟨hkeep, htable, hresults _ hkeep⟩

end BookIndex.DocBook
