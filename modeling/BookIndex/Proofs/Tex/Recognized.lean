import BookIndex.Proofs.Tex.Source

namespace BookIndex.Tex

theorem bodyFrom?_eq_some_iff (inner : Bool) {s b : Text} :
    bodyFrom? inner s = some b ↔ balanced 1 inner.toNat b = true ∧ b ++ ['}'] <+: s := by
  constructor
  · intro h
    induction s generalizing inner b with
    | nil => cases h
    | cons c s ih =>
      rw [bodyFrom?] at h
      by_cases hclose : c = '}'
      · subst hclose
        cases inner with
        | false =>
          cases h
          exact ⟨rfl, by simp⟩
        | true =>
          obtain ⟨t, ht, rfl⟩ := Option.map_eq_some_iff.1 h
          obtain ⟨hbalanced, hprefix⟩ := ih false ht
          exact ⟨by simpa [balanced] using hbalanced, by simpa using hprefix⟩
      · rw [if_neg hclose] at h
        by_cases hopen : c = '{'
        · subst hopen
          cases inner with
          | true => cases h
          | false =>
            obtain ⟨t, ht, rfl⟩ := Option.map_eq_some_iff.1 h
            obtain ⟨hbalanced, hprefix⟩ := ih true ht
            exact ⟨by simpa [balanced] using hbalanced, by simpa using hprefix⟩
        · rw [if_neg hopen] at h
          obtain ⟨t, ht, rfl⟩ := Option.map_eq_some_iff.1 h
          obtain ⟨hbalanced, hprefix⟩ := ih inner ht
          exact ⟨by simpa [balanced, hopen, hclose] using hbalanced, by simpa using hprefix⟩
  · intro h
    obtain ⟨hbalanced, rest, rfl⟩ := h
    rw [List.append_assoc]
    exact bodyFrom?_append inner hbalanced rest

theorem take_optionLength (s : Text) :
    s.take (optionLength s) = [] ∨ ∃ t, s.take (optionLength s) = '[' :: t ++ [']'] ∧ ']' ∉ t := by
  unfold optionLength
  split
  · rename_i s
    split
    · rename_i hclose
      right
      obtain ⟨t, rest, rfl, ht⟩ := List.eq_append_cons_of_mem (List.contains_iff_mem.1 hclose)
      refine ⟨t, ?_, ht⟩
      have hlength := optionLength_bracket ht rest
      rw [optionLength, if_pos hclose] at hlength
      have hbracket : '[' :: (t ++ ']' :: rest) = ('[' :: t ++ [']']) ++ rest := by simp
      rw [hlength, hbracket]
      exact List.take_left' (by simp)
    · left
      rfl
  · left
    rfl

theorem named?_eq_some {name s : Text} {m : Macro} (hname : name ∈ macroNames)
    (h : Macro.named? name s = some m) : m.WellFormed ∧ m.tail <+: s := by
  cases hsplit : name.isPrefixOf? s with
  | none => simp [Macro.named?, hsplit] at h
  | some rest =>
    obtain rfl : name ++ rest = s := List.isPrefixOf?_eq_some_iff_append_eq.1 hsplit
    have hoption := take_optionLength rest
    have hrest : _ ++ _ = rest :=
      List.prefix_iff_eq_append.1 (List.take_prefix (optionLength rest) rest)
    simp only [Macro.named?, hsplit, Option.bind_eq_bind, Option.bind_some] at h
    generalize rest.take (optionLength rest) = option at hoption hrest h
    generalize rest.drop option.length = after at hrest h
    cases after with
    | nil => cases h
    | cons c after =>
      split at h
      · rename_i hopen
        obtain rfl : c = '{' := Option.some.inj hopen
        obtain ⟨body, hbody, hm⟩ := Option.bind_eq_some_iff.1 h
        obtain ⟨hbalanced, hprefix⟩ := (bodyFrom?_eq_some_iff false).1 hbody
        cases hm
        refine ⟨⟨hname, hoption, hbalanced⟩, ?_⟩
        obtain ⟨tail, rfl⟩ := hprefix
        exact ⟨tail, by rw [← hrest]; simp [Macro.tail]⟩
      · cases h

theorem ofTail?_eq_some_iff {s : Text} {m : Macro} :
    Macro.ofTail? s = some m ↔ m.WellFormed ∧ m.tail <+: s := by
  constructor
  · intro h
    obtain ⟨name, hname, hnamed⟩ := List.exists_of_findSome?_eq_some h
    exact named?_eq_some hname hnamed
  · intro h
    obtain ⟨hm, rest, rfl⟩ := h
    exact ofTail?_append hm rest

theorem commented_backslash (p : Place) : p.commented '\\' = p.comment := by
  simp [Place.commented]

theorem exists_of_mem_scanFrom {source : Text} {p : Place} {skip : ℕ} {s : Text} {o : Occurrence}
    (h : o ∈ scanFrom source p skip s) : ∃ before rest m, s = before ++ '\\' :: rest ∧
      Macro.ofTail? rest = some m ∧ (before.foldl Place.next p).comment = false ∧
      m.occurrence? source (before.foldl Place.next p).line = some o := by
  induction s generalizing p skip with
  | nil => cases h
  | cons c s ih =>
    have hlater : ∀ skip', o ∈ scanFrom source (p.next c) skip' s →
        ∃ before rest m, c :: s = before ++ '\\' :: rest ∧ Macro.ofTail? rest = some m ∧
          (before.foldl Place.next p).comment = false ∧
          m.occurrence? source (before.foldl Place.next p).line = some o := by
      intro skip' h'
      obtain ⟨before, rest, m, rfl, hfound⟩ := ih h'
      exact ⟨c :: before, rest, m, rfl, hfound⟩
    cases skip with
    | succ skip => exact hlater skip h
    | zero =>
      rw [scanFrom] at h
      split at h
      · rename_i hc
        subst hc
        cases hm : Macro.ofTail? s with
        | none =>
          rw [hm] at h
          exact hlater 0 h
        | some m =>
          rw [hm, commented_backslash] at h
          rcases List.mem_append.1 h with hfound | hrest
          · cases hcomment : p.comment with
            | true => simp [hcomment] at hfound
            | false => exact ⟨[], s, m, rfl, hm, hcomment, by simpa [hcomment] using hfound⟩
          · exact hlater m.tail.length hrest
      · exact hlater 0 h

end BookIndex.Tex
