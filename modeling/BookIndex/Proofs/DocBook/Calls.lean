import BookIndex.Markup.Command
import BookIndex.Proofs.DocBook.Ranges

namespace BookIndex.DocBook.RangeTable

open Markup

/-- A call for the identifier of a term path. Only calls for the end of a range change a table. -/
structure Call where
  path : Text
  kind : CommandKind
  deriving DecidableEq, Repr

def call (t : RangeTable) (c : Call) : Text × RangeTable := t.step c.path (c.kind == .rangeEnd)

/-- The identifiers that a sequence of calls gets. -/
def identifiers (t : RangeTable) : List Call → List Text
  | [] => []
  | c :: calls => (t.call c).1 :: identifiers (t.call c).2 calls

/-- The table that call `k` of a sequence finds. -/
def tableAt (t : RangeTable) (calls : List Call) (k : ℕ) : RangeTable :=
  (calls.take k).foldl (fun t c ↦ (t.call c).2) t

/-- Call `k` ends a range whose path was closed before. -/
def ClosesAgain (t : RangeTable) (calls : List Call) (k : ℕ) : Prop :=
  ∃ q, calls[k]? = some ⟨q, .rangeEnd⟩ ∧ q ∈ (t.tableAt calls k).seen

variable {t : RangeTable} {calls : List Call}

theorem call_of_end (t : RangeTable) (q : Text) : (t.call ⟨q, .rangeEnd⟩).2 = t.close q := rfl

theorem call_of_not_end (t : RangeTable) {c : Call} (h : c.kind ≠ .rangeEnd) : (t.call c).2 = t := by
  rw [call, step, beq_false_of_ne h]
  rfl

theorem getElem?_identifiers (t : RangeTable) (calls : List Call) (k : ℕ) :
    (t.identifiers calls)[k]? = calls[k]?.map fun c ↦ (t.tableAt calls k).identifier c.path := by
  induction calls generalizing t k with
  | nil => rfl
  | cons c calls ih =>
    cases k with
    | zero => rfl
    | succ k => exact ih (t.call c).2 k

theorem tableAt_succ (k : ℕ) :
    t.tableAt calls (k + 1) = (calls[k]?.map fun c ↦ ((t.tableAt calls k).call c).2).getD
      (t.tableAt calls k) := by
  unfold tableAt
  rw [List.take_add_one, List.foldl_append]
  cases calls[k]? with
  | none => rfl
  | some c => rfl

theorem mem_seen_succ {k : ℕ} {p : Text} : p ∈ (t.tableAt calls (k + 1)).seen ↔
    calls[k]? = some ⟨p, .rangeEnd⟩ ∨ p ∈ (t.tableAt calls k).seen := by
  rw [tableAt_succ]
  cases hk : calls[k]? with
  | none => simp
  | some c =>
    rcases c with ⟨q, kind⟩
    by_cases hkind : kind = .rangeEnd
    · subst hkind
      simp only [Option.map_some, Option.getD_some, call_of_end, mem_close_seen, Option.some_inj,
        Call.mk.injEq, and_true, eq_comm]
    · rw [Option.map_some, Option.getD_some, call_of_not_end _ hkind]
      simp [hkind]

theorem counter_succ_of_closesAgain {k : ℕ} (h : ClosesAgain t calls k) :
    (t.tableAt calls (k + 1)).counter = (t.tableAt calls k).counter + 1 := by
  obtain ⟨q, hk, hq⟩ := h
  rw [tableAt_succ, hk, Option.map_some, Option.getD_some, call_of_end, close, if_pos hq]

theorem counter_succ_of_not_closesAgain {k : ℕ} (h : ¬ClosesAgain t calls k) :
    (t.tableAt calls (k + 1)).counter = (t.tableAt calls k).counter := by
  rw [tableAt_succ]
  cases hk : calls[k]? with
  | none => rfl
  | some c =>
    rcases c with ⟨q, kind⟩
    rw [Option.map_some, Option.getD_some]
    by_cases hkind : kind = .rangeEnd
    · subst hkind
      have hq : q ∉ (t.tableAt calls k).seen := fun hq ↦ h ⟨q, hk, hq⟩
      rw [call_of_end, close, if_neg hq]
    · rw [call_of_not_end _ hkind]

theorem counter_eq_iff {i j : ℕ} (hij : i ≤ j) :
    (t.tableAt calls i).counter = (t.tableAt calls j).counter ↔
      ∀ k, i ≤ k → k < j → ¬ClosesAgain t calls k := by
  refine eq_iff_of_steps (f := fun k ↦ (t.tableAt calls k).counter) ?_ ?_ hij
  · intro k hk
    have hs := counter_succ_of_closesAgain hk
    omega
  · intro k hk
    exact counter_succ_of_not_closesAgain hk

theorem mem_seen_congr {i j : ℕ} {p : Text} (hij : i ≤ j)
    (h : ∀ k, i ≤ k → k < j → calls[k]? ≠ some ⟨p, .rangeEnd⟩) :
    p ∈ (t.tableAt calls j).seen ↔ p ∈ (t.tableAt calls i).seen := by
  induction j, hij using Nat.le_induction with
  | base => rfl
  | succ j hj ih =>
    have hend := h j hj (Nat.lt_succ_self j)
    rw [mem_seen_succ, or_iff_right hend]
    apply ih
    intro k hik hkj
    exact h k hik (by omega)

/-- The identifiers of a start and of the next end of its path are the same exactly if the path was
not closed before the start, or no path is closed again between the two. -/
theorem identifiers_eq_iff (t : RangeTable) (calls : List Call) {i j : ℕ} {p : Text} (hij : i < j)
    (hi : calls[i]? = some ⟨p, .rangeStart⟩) (hj : calls[j]? = some ⟨p, .rangeEnd⟩)
    (hnext : ∀ k, i < k → k < j → calls[k]? ≠ some ⟨p, .rangeEnd⟩) :
    ∃ x y, (t.identifiers calls)[i]? = some x ∧ (t.identifiers calls)[j]? = some y ∧
      (x = y ↔ p ∉ (t.tableAt calls i).seen ∨
        ∀ k, i < k → k < j → ¬ClosesAgain t calls k) := by
  have hstart : calls[i]? ≠ some ⟨p, .rangeEnd⟩ := by simp [hi]
  have hseen : p ∈ (t.tableAt calls j).seen ↔ p ∈ (t.tableAt calls i).seen := by
    apply mem_seen_congr hij.le
    intro k hik hkj
    rcases Nat.lt_or_eq_of_le hik with hik | rfl
    · exact hnext k hik hkj
    · exact hstart
  -- the start itself closes nothing, so the counter depends on the calls behind it alone
  have hcounter : (t.tableAt calls i).counter = (t.tableAt calls j).counter ↔
      ∀ k, i < k → k < j → ¬ClosesAgain t calls k := by
    rw [counter_eq_iff hij.le]
    constructor
    · intro h k hik hkj
      exact h k hik.le hkj
    · intro h k hik hkj
      rcases Nat.lt_or_eq_of_le hik with hik | rfl
      · exact h k hik hkj
      · rintro ⟨q, hq, -⟩
        rw [hi] at hq
        cases hq
  refine ⟨(t.tableAt calls i).identifier p, (t.tableAt calls j).identifier p, ?_, ?_, ?_⟩
  · rw [getElem?_identifiers, hi, Option.map_some]
  · rw [getElem?_identifiers, hj, Option.map_some]
  · rw [← hcounter]
    by_cases hp : p ∈ (t.tableAt calls i).seen
    · rw [identifier_of_mem hp, identifier_of_mem (hseen.2 hp), List.append_cancel_left_eq,
        List.cons_inj_right, Text.ofInt_injective.eq_iff]
      simp [hp]
    · rw [identifier_of_notMem hp, identifier_of_notMem (mt hseen.1 hp)]
      simp [hp]

def reopened : RangeTable := ⟨[['A'], ['B']], -1⟩

def interleaved : List Call :=
  [⟨['A'], .rangeStart⟩, ⟨['C'], .rangeEnd⟩, ⟨['B'], .rangeEnd⟩, ⟨['A'], .rangeEnd⟩]

/-- The end of `C` is a first one and moves no counter, the end of `B` is a second one. -/
theorem identifiers_eq_iff_interleaved :
    reopened.identifiers interleaved =
      ["A--1".toList, "C".toList, "B--1".toList, "A-0".toList] ∧
    ClosesAgain reopened interleaved 2 ∧
    (∀ k, 0 < k → k < 3 → interleaved[k]? ≠ some ⟨['A'], .rangeEnd⟩) ∧
    ∃ x y, (reopened.identifiers interleaved)[0]? = some x ∧
      (reopened.identifiers interleaved)[3]? = some y ∧
      (x = y ↔ ['A'] ∉ (reopened.tableAt interleaved 0).seen ∨
        ∀ k, 0 < k → k < 3 → ¬ClosesAgain reopened interleaved k) := by
  have hnext : ∀ k, 0 < k → k < 3 → interleaved[k]? ≠ some ⟨['A'], .rangeEnd⟩ := by
    intro k hk hk'
    obtain rfl | rfl : k = 1 ∨ k = 2 := by omega
    · decide
    · decide
  exact ⟨by decide, ⟨['B'], rfl, by decide⟩, hnext,
    identifiers_eq_iff reopened interleaved (by decide) rfl rfl hnext⟩

end BookIndex.DocBook.RangeTable
