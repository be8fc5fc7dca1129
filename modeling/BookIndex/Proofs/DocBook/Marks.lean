import BookIndex.DocBook.Render
import BookIndex.Proofs.DocBook.Ranges

namespace BookIndex.DocBook

open Markup

structure Mark where
  starts : Bool
  path : Text
  deriving DecidableEq, Repr

def mark? (o : Options) (entry : Text × Option Text) : Option Mark :=
  let e := parse o.escape (Text.trim entry.1)
  match e.command.kind with
  | .rangeStart => some ⟨true, e.termPath⟩
  | .rangeEnd => some ⟨false, e.termPath⟩
  | _ => none

def Mark.closed? (m : Mark) : Option Text := if m.starts then none else some m.path

def Mark.edge? (p : Text) (m : Mark) : Option Bool := if m.path = p then some m.starts else none

section

variable (o : Options) (entries : List (Text × Option Text))

def markAt? (k : Nat) : Option Mark := entries[k]?.bind (mark? o)

/-- The paths that the entries before entry `k` close, in order. -/
def closedBefore (k : Nat) : List Text :=
  (entries.take k).filterMap fun e ↦ (mark? o e).bind Mark.closed?

/-- Entry `k` closes a path that was closed before. -/
def Recloses (k : Nat) : Prop :=
  ∃ q, markAt? o entries k = some ⟨false, q⟩ ∧ q ∈ closedBefore o entries k

def edges (p : Text) : List Bool := entries.filterMap fun e ↦ (mark? o e).bind (Mark.edge? p)

def alternates : Bool → List Bool → Bool
  | _, [] => true
  | last, b :: rest => b != last && alternates b rest

/-- For every path starts and ends alternate, a start first. -/
def Alternating : Prop := ∀ p, alternates false (edges o entries p) = true

end

variable {o : Options} {entries : List (Text × Option Text)}

theorem Mark.edge?_eq_some {m : Mark} {p : Text} {b : Bool} :
    m.edge? p = some b ↔ m = ⟨b, p⟩ := by
  rcases m with ⟨c, q⟩
  simp [Mark.edge?, and_comm]

theorem Mark.closed?_eq_some {m : Mark} {p : Text} : m.closed? = some p ↔ m = ⟨false, p⟩ := by
  rcases m with ⟨c, q⟩
  cases c <;> simp [Mark.closed?]

theorem alternating_iff : Alternating o entries ↔
    ∀ m ∈ entries.filterMap (mark? o), alternates false (edges o entries m.path) = true := by
  constructor
  · exact fun h m _ ↦ h m.path
  · intro h p
    by_cases hp : ∃ m ∈ entries.filterMap (mark? o), m.path = p
    · obtain ⟨m, hm, rfl⟩ := hp
      exact h m hm
    · have hn : edges o entries p = [] := by
        refine List.filterMap_eq_nil_iff.2 fun e he ↦ Option.bind_eq_none_iff.2 fun m hm ↦ ?_
        exact if_neg fun hmp ↦ hp ⟨m, List.mem_filterMap.2 ⟨e, he, hm⟩, hmp⟩
      rw [hn]
      rfl

instance : Decidable (Alternating o entries) := decidable_of_iff _ alternating_iff.symm

theorem closedBefore_succ (k : Nat) : closedBefore o entries (k + 1) =
    closedBefore o entries k ++ ((markAt? o entries k).bind Mark.closed?).toList := by
  unfold closedBefore markAt?
  rw [List.take_add_one, List.filterMap_append, Option.bind_assoc]
  cases entries[k]? with
  | none => rfl
  | some e => cases h : (mark? o e).bind Mark.closed? <;> simp [h]

theorem mem_closedBefore {k : Nat} {p : Text} :
    p ∈ closedBefore o entries k ↔ ∃ l < k, markAt? o entries l = some ⟨false, p⟩ := by
  induction k with
  | zero => simp [closedBefore]
  | succ k ih =>
    have hk : p ∈ ((markAt? o entries k).bind Mark.closed?).toList ↔
        markAt? o entries k = some ⟨false, p⟩ := by
      simp [Option.bind_eq_some_iff, Mark.closed?_eq_some]
    rw [closedBefore_succ, List.mem_append, ih, hk]
    constructor
    · rintro (⟨l, hl, h⟩ | h)
      · exact ⟨l, by omega, h⟩
      · exact ⟨k, by omega, h⟩
    · rintro ⟨l, hl, h⟩
      rcases Nat.lt_succ_iff_lt_or_eq.1 hl with hl | rfl
      · exact .inl ⟨l, hl, h⟩
      · exact .inr h

theorem mem_closedBefore_congr {i j : Nat} {p : Text} (hij : i ≤ j)
    (hn : ∀ k, i ≤ k → k < j → markAt? o entries k ≠ some ⟨false, p⟩) :
    p ∈ closedBefore o entries i ↔ p ∈ closedBefore o entries j := by
  rw [mem_closedBefore, mem_closedBefore]
  constructor
  · rintro ⟨l, hl, hm⟩
    exact ⟨l, by omega, hm⟩
  · rintro ⟨l, hl, hm⟩
    refine ⟨l, ?_, hm⟩
    by_contra hil
    exact hn l (by omega) hl hm

theorem not_recloses_of_start {k : Nat} {p : Text} (h : markAt? o entries k = some ⟨true, p⟩) :
    ¬Recloses o entries k := by
  rintro ⟨q, hq, -⟩
  rw [h] at hq
  cases hq

theorem repeats_succ_of_recloses {k : Nat} (h : Recloses o entries k) :
    repeats (closedBefore o entries (k + 1)) = repeats (closedBefore o entries k) + 1 := by
  obtain ⟨q, hk, hq⟩ := h
  rw [closedBefore_succ, hk]
  exact (repeats_append_singleton _ q).trans (by rw [if_pos hq])

theorem repeats_succ_of_not_recloses {k : Nat} (h : ¬Recloses o entries k) :
    repeats (closedBefore o entries (k + 1)) = repeats (closedBefore o entries k) := by
  rw [closedBefore_succ]
  cases hk : (markAt? o entries k).bind Mark.closed? with
  | none => rw [Option.toList_none, List.append_nil]
  | some q =>
    obtain ⟨m, hm, hq⟩ := Option.bind_eq_some_iff.1 hk
    rw [Mark.closed?_eq_some.1 hq] at hm
    have hn : q ∉ closedBefore o entries k := fun hc ↦ h ⟨q, hm, hc⟩
    exact (repeats_append_singleton _ q).trans (by rw [if_neg hn, Nat.add_zero])

theorem repeats_eq_iff {i j : Nat} (hij : i ≤ j) :
    repeats (closedBefore o entries i) = repeats (closedBefore o entries j) ↔
      ∀ k, i ≤ k → k < j → ¬Recloses o entries k := by
  refine eq_iff_of_steps (f := fun k ↦ repeats (closedBefore o entries k)) ?_ ?_ hij
  · intro k hk
    exact (repeats_succ_of_recloses hk).ge
  · intro k hk
    exact repeats_succ_of_not_recloses hk

theorem exists_opposite {α : Type} {f : α → Option Bool} {l : List α} {last b : Bool} {j : Nat}
    (h : alternates last (l.filterMap f) = true) (hj : l[j]?.bind f = some b) :
    (last = !b ∧ ∀ k < j, l[k]?.bind f = none) ∨
      ∃ i < j, l[i]?.bind f = some (!b) ∧ ∀ k, i < k → k < j → l[k]?.bind f = none := by
  induction l generalizing last j with
  | nil => simp at hj
  | cons a l ih =>
    cases ha : f a with
    | none =>
      rw [List.filterMap_cons_none ha] at h
      cases j with
      | zero => simp [ha] at hj
      | succ j =>
        rcases ih h hj with ⟨hb, hn⟩ | ⟨i, hij, hi, hn⟩
        · refine .inl ⟨hb, fun k hk ↦ ?_⟩
          cases k with
          | zero => simpa using ha
          | succ k => exact hn k (by omega)
        · refine .inr ⟨i + 1, by omega, hi, fun k hik hkj ↦ ?_⟩
          obtain ⟨k, rfl⟩ := Nat.exists_eq_add_of_lt (Nat.zero_lt_of_lt hik)
          exact hn _ (by omega) (by omega)
    | some c =>
      rw [List.filterMap_cons_some ha, alternates, Bool.and_eq_true, bne_iff_ne] at h
      -- the mark `c` comes first, so it is the last one for what follows
      cases j with
      | zero =>
        have hb : c = b := by simpa [ha] using hj
        subst hb
        exact .inl ⟨by cases c <;> simp_all, fun k hk ↦ absurd hk (by omega)⟩
      | succ j =>
        rcases ih h.2 hj with ⟨hb, hn⟩ | ⟨i, hij, hi, hn⟩
        · refine .inr ⟨0, by omega, by simp [ha, hb], fun k hik hkj ↦ ?_⟩
          obtain ⟨k, rfl⟩ := Nat.exists_eq_add_of_lt hik
          exact hn _ (by omega)
        · refine .inr ⟨i + 1, by omega, hi, fun k hik hkj ↦ ?_⟩
          obtain ⟨k, rfl⟩ := Nat.exists_eq_add_of_lt (Nat.zero_lt_of_lt hik)
          exact hn _ (by omega) (by omega)

theorem edge_eq_some {p : Text} {b : Bool} {k : Nat} :
    entries[k]?.bind (fun e ↦ (mark? o e).bind (Mark.edge? p)) = some b ↔
      markAt? o entries k = some ⟨b, p⟩ := by
  unfold markAt?
  rw [← Option.bind_assoc, Option.bind_eq_some_iff]
  simp [Mark.edge?_eq_some]

theorem Alternating.exists_start {j : Nat} {p : Text} (h : Alternating o entries)
    (hj : markAt? o entries j = some ⟨false, p⟩) :
    ∃ i < j, markAt? o entries i = some ⟨true, p⟩ ∧
      ∀ k, i < k → k < j → ∀ b, markAt? o entries k ≠ some ⟨b, p⟩ := by
  rcases exists_opposite (h p) (edge_eq_some.2 hj) with ⟨hb, -⟩ | ⟨i, hij, hi, hn⟩
  · cases hb
  · refine ⟨i, hij, edge_eq_some.1 hi, fun k hik hkj b hk ↦ ?_⟩
    have hs := hn k hik hkj
    rw [edge_eq_some.2 hk] at hs
    cases hs

theorem Alternating.exists_end {i j : Nat} {p : Text} (h : Alternating o entries) (hij : i < j)
    (hi : markAt? o entries i = some ⟨true, p⟩) (hj : markAt? o entries j = some ⟨true, p⟩) :
    ∃ k, i < k ∧ k < j ∧ markAt? o entries k = some ⟨false, p⟩ := by
  rcases exists_opposite (h p) (edge_eq_some.2 hj) with ⟨-, hn⟩ | ⟨k, hkj, hk, hn⟩
  · have hs := hn i hij
    rw [edge_eq_some.2 hi] at hs
    cases hs
  · have hk := edge_eq_some.1 hk
    rcases Nat.lt_trichotomy i k with hik | rfl | hki
    · exact ⟨k, hik, hkj, hk⟩
    · rw [hi] at hk
      cases hk
    · have hs := hn i hki hij
      rw [edge_eq_some.2 hi] at hs
      cases hs

end BookIndex.DocBook
