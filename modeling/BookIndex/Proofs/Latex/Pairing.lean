import BookIndex.Proofs.Latex.Keys

namespace BookIndex.Latex

open Markup

/-- Every escape character stands directly behind a backslash, and every backslash directly before
an escape character. -/
structure Paired (e : Char) (s : Text) : Prop where
  behind : ∀ i, s[i]? = some e → ∃ j, i = j + 1 ∧ s[j]? = some '\\'
  before : ∀ i, s[i]? = some '\\' → s[i + 1]? = some e

/-- A text without its backslashes. -/
def withoutSlashes (s : Text) : Text := s.filter (· != '\\')

variable {e : Char} {s t : Text}

theorem Paired.append (hs : Paired e s) (ht : Paired e t) : Paired e (s ++ t) where
  behind i hi := by
    rw [List.getElem?_append] at hi
    split at hi
    · obtain ⟨j, rfl, hj⟩ := hs.behind i hi
      exact ⟨j, rfl, by rw [List.getElem?_append_left (by omega), hj]⟩
    · obtain ⟨j, hij, hj⟩ := ht.behind (i - s.length) hi
      refine ⟨s.length + j, by omega, ?_⟩
      rw [List.getElem?_append_right (by omega), Nat.add_sub_cancel_left, hj]
  before i hi := by
    rw [List.getElem?_append] at hi
    split at hi
    · have hnext := hs.before i hi
      rw [List.getElem?_append_left (List.getElem?_eq_some_iff.1 hnext).1, hnext]
    · rw [List.getElem?_append_right (by omega), Nat.sub_add_comm (by omega)]
      exact ht.before (i - s.length) hi

theorem Paired.of_append (h : Paired e (s ++ t)) (hs : Paired e s) : Paired e t where
  behind i hi := by
    have hi' : (s ++ t)[s.length + i]? = some e := by
      rw [List.getElem?_append_right (by omega), Nat.add_sub_cancel_left, hi]
    obtain ⟨j, hij, hj⟩ := h.behind (s.length + i) hi'
    rw [List.getElem?_append] at hj
    split at hj
    · have hnext := hs.before j hj
      have := (List.getElem?_eq_some_iff.1 hnext).1
      omega
    · exact ⟨j - s.length, by omega, hj⟩
  before i hi := by
    have hi' : (s ++ t)[s.length + i]? = some '\\' := by
      rw [List.getElem?_append_right (by omega), Nat.add_sub_cancel_left, hi]
    have hnext := h.before (s.length + i) hi'
    rwa [List.getElem?_append_right (by omega), Nat.add_assoc, Nat.add_sub_cancel_left] at hnext

theorem paired_nil (e : Char) : Paired e [] := ⟨by simp, by simp⟩

theorem paired_singleton {c : Char} (hslash : c ≠ '\\') (he : c ≠ e) : Paired e [c] where
  behind i hi := by
    simp only [List.getElem?_singleton] at hi
    split at hi
    · exact absurd (Option.some.inj hi) he
    · cases hi
  before i hi := by
    simp only [List.getElem?_singleton] at hi
    split at hi
    · exact absurd (Option.some.inj hi) hslash
    · cases hi

theorem paired_pair (he : e ≠ '\\') : Paired e ['\\', e] where
  behind i hi := by
    match i with
    | 0 => exact absurd (Option.some.inj hi).symm he
    | 1 => exact ⟨0, rfl, rfl⟩
    | i + 2 => cases hi
  before i hi := by
    match i with
    | 0 => rfl
    | 1 => exact absurd (Option.some.inj hi) he
    | i + 2 => cases hi

theorem paired_protectChar (he : e ≠ '\\') (c : Char) : Paired e (protectChar e c) := by
  by_cases hslash : c = '\\'
  · rw [hslash, protectChar_slash]
    exact paired_nil e
  · by_cases hc : c = e
    · rw [hc, protectChar_self he]
      exact paired_pair he
    · rw [protectChar_of_ne hslash hc]
      exact paired_singleton hslash hc

theorem paired_protectKey (he : e ≠ '\\') (s : Text) : Paired e (protectKey [e] s) := by
  rw [protectKey_eq_flatMap]
  induction s with
  | nil => exact paired_nil e
  | cons c s ih => exact (paired_protectChar he c).append ih

theorem withoutSlashes_append (s t : Text) :
    withoutSlashes (s ++ t) = withoutSlashes s ++ withoutSlashes t :=
  List.filter_append s t

theorem withoutSlashes_protectChar (e c : Char) :
    withoutSlashes (protectChar e c) = withoutSlashes [c] := by
  by_cases hslash : c = '\\'
  · rw [hslash, protectChar_slash]
    rfl
  · by_cases hc : c = e
    · subst hc
      rw [protectChar_self hslash]
      rfl
    · rw [protectChar_of_ne hslash hc]

theorem withoutSlashes_protectKey (e : Char) (s : Text) :
    withoutSlashes (protectKey [e] s) = withoutSlashes s := by
  rw [protectKey_eq_flatMap]
  induction s with
  | nil => rfl
  | cons c s ih =>
    rw [List.flatMap_cons, withoutSlashes_append, withoutSlashes_protectChar, ih,
      ← withoutSlashes_append, List.singleton_append]

theorem protectKey_append (e : Char) (s t : Text) :
    protectKey [e] (s ++ t) = protectKey [e] s ++ protectKey [e] t := by
  rw [protectKey_eq_flatMap, protectKey_eq_flatMap, protectKey_eq_flatMap, List.flatMap_append]

theorem protectKey_withoutSlashes (e : Char) (s : Text) :
    protectKey [e] (withoutSlashes s) = protectKey [e] s := by
  rw [protectKey_eq_flatMap, protectKey_eq_flatMap]
  induction s with
  | nil => rfl
  | cons c s ih =>
    rw [withoutSlashes] at ih ⊢
    by_cases hslash : c = '\\'
    · rw [List.filter_cons_of_neg (by simp [hslash]), ih, List.flatMap_cons, hslash,
        protectChar_slash, List.nil_append]
    · rw [List.filter_cons_of_pos (by simp [hslash]), List.flatMap_cons, List.flatMap_cons, ih]

theorem protectKey_protectChar (he : e ≠ '\\') (c : Char) :
    protectKey [e] (protectChar e c) = protectChar e c := by
  rw [protectKey_eq_flatMap]
  by_cases hslash : c = '\\'
  · rw [hslash, protectChar_slash, List.flatMap_nil]
  · by_cases hc : c = e
    · rw [hc, protectChar_self he, List.flatMap_cons, List.flatMap_singleton, protectChar_slash,
        protectChar_self he, List.nil_append]
    · rw [protectChar_of_ne hslash hc, List.flatMap_singleton, protectChar_of_ne hslash hc]

theorem Paired.exists_append (he : e ≠ '\\') {c : Char} (h : Paired e (c :: s)) :
    ∃ d t, protectChar e d ≠ [] ∧ c :: s = protectChar e d ++ t ∧ Paired e t := by
  by_cases hslash : c = '\\'
  · subst hslash
    have hnext : s[0]? = some e := h.before 0 rfl
    rw [← List.head?_eq_getElem?] at hnext
    obtain ⟨t, rfl⟩ := List.head?_eq_some_iff.1 hnext
    refine ⟨e, t, ?_⟩
    rw [protectChar_self he]
    exact ⟨List.cons_ne_nil _ _, rfl, h.of_append (paired_pair he)⟩
  · have hc : c ≠ e := by
      rintro rfl
      obtain ⟨j, hj, -⟩ := h.behind 0 rfl
      cases hj
    refine ⟨c, s, ?_⟩
    rw [protectChar_of_ne hslash hc]
    exact ⟨List.cons_ne_nil _ _, rfl, h.of_append (paired_singleton hslash hc)⟩

theorem protectKey_of_paired (he : e ≠ '\\') (h : Paired e s) : protectKey [e] s = s := by
  induction hn : s.length using Nat.strong_induction_on generalizing s with
  | _ n ih =>
    cases s with
    | nil => rfl
    | cons c s =>
      obtain ⟨d, t, hne, hs, ht⟩ := h.exists_append he
      have hlen : t.length < n := by
        have hpos := List.length_pos_iff.2 hne
        rw [← hn, hs, List.length_append]
        omega
      rw [hs, protectKey_append, protectKey_protectChar he, ih t.length hlen ht rfl]

theorem Paired.eq_protectKey (he : e ≠ '\\') (hs : Paired e s)
    (h : withoutSlashes s = withoutSlashes t) : s = protectKey [e] t := by
  calc
    s = protectKey [e] s := (protectKey_of_paired he hs).symm
    _ = protectKey [e] (withoutSlashes s) := (protectKey_withoutSlashes e s).symm
    _ = protectKey [e] (withoutSlashes t) := by rw [h]
    _ = protectKey [e] t := protectKey_withoutSlashes e t

theorem slash_not_mem_protectKey (s : Text) : '\\' ∉ protectKey ['\\'] s := by
  rw [protectKey_eq_flatMap]
  intro h
  obtain ⟨c, -, hc⟩ := List.mem_flatMap.1 h
  by_cases hslash : c = '\\'
  · rw [hslash, protectChar_slash] at hc
    cases hc
  · rw [protectChar_of_ne hslash hslash] at hc
    exact hslash (List.mem_singleton.1 hc).symm

/-- Whatever the validator answers, the key has the characters of the answer that are no backslashes.
Its backslashes and escape characters stand in pairs, and it is the only such text, but if the
backslash is the escape character, the key has none. -/
theorem sortKey_paired (answer : Bool → Text → Text × Text) (preview : Bool) (e : Char)
    (level plain : Text) :
    ∃ key log, sortKey (fun preview t ↦ .ok (answer preview t)) preview [e] level plain =
        .ok (key, log) ∧
      withoutSlashes key = withoutSlashes (answer preview (keySource level plain)).1 ∧
      (e = '\\' → '\\' ∉ key) ∧
      (e ≠ '\\' → Paired e key ∧ ∀ t, Paired e t →
        withoutSlashes t = withoutSlashes (answer preview (keySource level plain)).1 → t = key) := by
  refine ⟨protectKey [e] (answer preview (keySource level plain)).1, _, rfl, ?_, ?_, ?_⟩
  · exact withoutSlashes_protectKey e _
  · rintro rfl
    exact slash_not_mem_protectKey _
  · intro he
    exact ⟨paired_protectKey he _, fun t ht h ↦ ht.eq_protectKey he h⟩

example : protectKey ['"'] "\\\"\"a\\b".toList = "\\\"\\\"ab".toList := by decide

end BookIndex.Latex
