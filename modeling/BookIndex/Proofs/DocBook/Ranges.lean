import BookIndex.DocBook.RangeTable
import BookIndex.Proofs.Xml.Id
import Mathlib.Data.List.Dedup
import Mathlib.Data.List.Nodup
import Mathlib.Order.Monotone.Basic

namespace BookIndex.DocBook

def repeats (es : List Text) : Nat := es.length - es.dedup.length

/-- The number in the identifier of a path when the paths of a list were closed. -/
def suffix? (es : List Text) (p : Text) : Option Nat :=
  if es.contains p then some (repeats es) else none

def numbered (s : Text) : Option Nat → Text
  | none => s
  | some n => s ++ '-' :: Text.ofNat n

/-- Two texts with numbers that read the same: they agree, or one text ends in the number of the
other. -/
def Clash (s : Text) (m : Option Nat) (t : Text) (n : Option Nat) : Prop :=
  (s = t ∧ m = n) ∨ (m = none ∧ ∃ k, n = some k ∧ s = t ++ '-' :: Text.ofNat k) ∨
    (n = none ∧ ∃ k, m = some k ∧ t = s ++ '-' :: Text.ofNat k)

theorem eq_iff_of_steps {α : Type} [PartialOrder α] {f : ℕ → α} {grows : ℕ → Prop}
    (hgrow : ∀ k, grows k → f k < f (k + 1)) (hstay : ∀ k, ¬grows k → f (k + 1) = f k)
    {i j : ℕ} (hij : i ≤ j) : f i = f j ↔ ∀ k, i ≤ k → k < j → ¬grows k := by
  have hmono : Monotone f := by
    apply monotone_nat_of_le_succ
    intro k
    by_cases hk : grows k
    · exact (hgrow k hk).le
    · exact (hstay k hk).ge
  constructor
  · intro h k hik hkj hk
    have hlt : f i < f j := (hmono hik).trans_lt ((hgrow k hk).trans_le (hmono hkj))
    exact hlt.ne h
  · intro h
    induction j, hij using Nat.le_induction with
    | base => rfl
    | succ j hj ih =>
      rw [ih fun k hik hkj ↦ h k hik (by omega), hstay j (h j hj (by omega))]

theorem suffix?_of_mem {es : List Text} {p : Text} (h : p ∈ es) :
    suffix? es p = some (repeats es) :=
  if_pos (List.contains_iff_mem.2 h)

theorem suffix?_of_notMem {es : List Text} {p : Text} (h : p ∉ es) : suffix? es p = none :=
  if_neg fun hc ↦ h (List.contains_iff_mem.1 hc)

theorem numbered_eq_iff {s t : Text} {m n : Option Nat} :
    numbered s m = numbered t n ↔ Clash s m t n := by
  cases m with
  | none =>
    cases n with
    | none => simp [numbered, Clash]
    | some k => simp [numbered, Clash]
  | some l =>
    cases n with
    | none => simp [numbered, Clash, eq_comm]
    | some k => simp [numbered, Clash, Text.append_hyphen_ofNat_inj]

namespace RangeTable

/-- A table holds the paths of a list, each once, and counts the others. -/
structure Tracks (t : RangeTable) (es : List Text) : Prop where
  mem_seen : ∀ p, p ∈ t.seen ↔ p ∈ es
  nodup : t.seen.Nodup
  counter : t.counter + t.seen.length = es.length

def closeAll (t : RangeTable) (es : List Text) : RangeTable := es.foldl close t

theorem tracks_empty : empty.Tracks [] := ⟨fun _ ↦ Iff.rfl, List.nodup_nil, rfl⟩

variable {t : RangeTable} {es : List Text}

theorem Tracks.close (h : t.Tracks es) (q : Text) : (t.close q).Tracks (es ++ [q]) where
  mem_seen p := by
    rw [mem_close_seen, h.mem_seen, List.mem_append, List.mem_singleton, or_comm]
  nodup := by
    unfold RangeTable.close
    split
    · exact h.nodup
    · rename_i hq
      exact h.nodup.cons hq
  counter := by
    have hc := counter_close t q
    have he := h.counter
    rw [List.length_append, List.length_singleton]
    push_cast
    omega

theorem Tracks.closeAll (h : t.Tracks es) (fs : List Text) :
    (t.closeAll fs).Tracks (es ++ fs) := by
  induction fs generalizing t es with
  | nil => rwa [List.append_nil]
  | cons q fs ih =>
    have hq := ih (h.close q)
    rwa [List.append_assoc, List.singleton_append] at hq

theorem Tracks.length_seen (h : t.Tracks es) : t.seen.length = es.dedup.length := by
  refine List.Perm.length_eq ((List.perm_ext_iff_of_nodup h.nodup es.nodup_dedup).2 fun p ↦ ?_)
  rw [h.mem_seen, List.mem_dedup]

theorem Tracks.counter_eq (h : t.Tracks es) : t.counter = repeats es := by
  have hc := h.counter
  have hl := h.length_seen
  have hd := es.dedup_sublist.length_le
  unfold repeats
  omega

theorem identifier_of_mem {p : Text} (h : p ∈ t.seen) :
    t.identifier p = Xml.cleanId p ++ '-' :: Text.ofInt t.counter := by
  rw [identifier, if_pos h, Xml.cleanId_append_integer]

theorem identifier_of_notMem {p : Text} (h : p ∉ t.seen) : t.identifier p = Xml.cleanId p := by
  rw [identifier, if_neg h]

theorem Tracks.identifier (h : t.Tracks es) (p : Text) :
    t.identifier p = numbered (Xml.cleanId p) (suffix? es p) := by
  by_cases hp : p ∈ es
  · rw [identifier_of_mem ((h.mem_seen p).2 hp), suffix?_of_mem hp, h.counter_eq]
    rfl
  · rw [identifier_of_notMem (mt (h.mem_seen p).1 hp), suffix?_of_notMem hp]
    rfl

end RangeTable

theorem repeats_append_singleton (es : List Text) (q : Text) :
    repeats (es ++ [q]) = repeats es + if q ∈ es then 1 else 0 := by
  have h := RangeTable.tracks_empty.closeAll es
  rw [List.nil_append] at h
  have hn := h.counter_eq
  have hq := (h.close q).counter_eq
  unfold RangeTable.close at hq
  by_cases hm : q ∈ es
  · rw [if_pos ((h.mem_seen q).2 hm)] at hq
    rw [if_pos hm]
    simp only at hq
    omega
  · rw [if_neg fun hs ↦ hm ((h.mem_seen q).1 hs)] at hq
    rw [if_neg hm]
    simp only at hq
    omega

end BookIndex.DocBook
