import BookIndex.Text.Basic
import Mathlib.Data.List.Basic
import Mathlib.Data.List.TakeWhile

namespace BookIndex.Text

theorem exists_trim (s : Text) :
    ∃ a b, s = a ++ trim s ++ b ∧ (∀ c ∈ a, isBlank c = true) ∧ ∀ c ∈ b, isBlank c = true := by
  let inner := s.dropWhile isBlank
  have hi : trim s ++ (inner.reverse.takeWhile isBlank).reverse = inner := by
    rw [trim, trimBy, ← List.reverse_append, List.takeWhile_append_dropWhile, List.reverse_reverse]
  refine ⟨s.takeWhile isBlank, (inner.reverse.takeWhile isBlank).reverse, ?_, ?_, ?_⟩
  · rw [List.append_assoc, hi, List.takeWhile_append_dropWhile]
  · exact fun c hc ↦ List.mem_takeWhile_imp hc
  · exact fun c hc ↦ List.mem_takeWhile_imp (List.mem_reverse.1 hc)

theorem trim_eq_nil_iff (s : Text) : trim s = [] ↔ allBlank s = true := by
  rw [allBlank, List.all_eq_true]
  constructor
  · intro h
    obtain ⟨a, b, hs, ha, hb⟩ := exists_trim s
    rw [h, List.append_nil] at hs
    intro c hc
    rw [hs, List.mem_append] at hc
    exact hc.elim (ha c) (hb c)
  · intro h
    rw [trim, trimBy, List.dropWhile_eq_nil_iff.2 h]
    rfl

theorem ne_of_isBlank {c d : Char} (hd : isBlank d = false) (hc : isBlank c = true) : c ≠ d := by
  intro h
  rw [h, hd] at hc
  cases hc

theorem beq_eq_false_of_isBlank {c d : Char} (hd : isBlank d = false) (hc : isBlank c = true) :
    (c == d) = false :=
  beq_eq_false_iff_ne.2 (ne_of_isBlank hd hc)

theorem replace_singleton (d : Char) (new s : Text) :
    replace [d] new s = s.flatMap fun c ↦ if c = d then new else [c] := by
  unfold replace
  induction s with
  | nil => rfl
  | cons c s ih =>
    rw [replaceFrom, List.flatMap_cons, ← ih]
    by_cases h : c = d
    · subst h
      simp
    · simp [h, Ne.symm h]

theorem append_cons_inj {d : Char} {s s' t t' : Text} (h : d ∉ s) (h' : d ∉ s') :
    s ++ d :: t = s' ++ d :: t' ↔ s = s' ∧ t = t' := by
  constructor
  · intro he
    have hl := congrArg (List.idxOf d) he
    rw [List.idxOf_append_of_notMem h, List.idxOf_append_of_notMem h', List.idxOf_cons_self,
      List.idxOf_cons_self] at hl
    obtain ⟨hs, ht⟩ := List.append_inj he (by omega)
    exact ⟨hs, List.tail_eq_of_cons_eq ht⟩
  · rintro ⟨rfl, rfl⟩
    rfl

end BookIndex.Text
