import BookIndex.Text.Basic
import Mathlib.Data.List.DropRight

namespace BookIndex.Text

/-- The texts in front of the first `n` occurrences of `sep`, and what is left behind them. -/
def cuts (sep : Text) : ℕ → Text → List Text
  | 0, s => [s]
  | n + 1, s =>
    match cut? sep s with
    | none => [s]
    | some (a, b) => a :: cuts sep n b

theorem cuts_ne_nil (sep : Text) (n : ℕ) (s : Text) : cuts sep n s ≠ [] := by
  cases n with
  | zero => simp [cuts]
  | succ n =>
    rw [cuts]
    split <;> simp

theorem length_cuts_le (sep : Text) (n : ℕ) (s : Text) : (cuts sep n s).length ≤ n + 1 := by
  induction n generalizing s with
  | zero => simp [cuts]
  | succ n ih =>
    rw [cuts]
    split
    · simp
    · simpa using ih _

section

variable {sep : Text} {d : Char}

theorem isPrefixOf_append_cons (hd : d ∉ sep) (s t : Text) :
    sep.isPrefixOf (s ++ d :: t) = sep.isPrefixOf s := by
  induction sep generalizing s with
  | nil => simp
  | cons c sep ih =>
    rw [List.mem_cons, not_or] at hd
    cases s with
    | nil => simp [List.isPrefixOf, Ne.symm hd.1]
    | cons a s => simp [List.isPrefixOf, ih hd.2 s]

variable (hs : sep ≠ []) (hd : d ∉ sep)

include hs hd

theorem cut?_append_cons (s t : Text) :
    cut? sep (s ++ d :: t) =
      match cut? sep s with
      | some (a, b) => some (a, b ++ d :: t)
      | none => (cut? sep (d :: t)).map fun r ↦ (s ++ r.1, r.2) := by
  induction s with
  | nil => simp [cut?, hs]
  | cons c s ih =>
    have hp := isPrefixOf_append_cons hd (c :: s) t
    rw [List.cons_append] at hp ⊢
    rw [cut?, cut?.eq_2 sep c s, hp, ih]
    split
    · rename_i h
      have hlen := (List.isPrefixOf_iff_prefix.1 h).length_le
      rw [← List.cons_append, List.drop_append_of_le_length hlen]
    · cases hcut : cut? sep s with
      | none => simp [Function.comp_def]
      | some r => rfl

theorem cuts_append_cons {n : ℕ} {s x t u : Text} {ls us : List Text}
    (h : cuts sep n s = ls ++ [x]) (hu : cuts sep (n - ls.length) (d :: t) = u :: us) :
    cuts sep n (s ++ d :: t) = ls ++ (x ++ u) :: us := by
  induction n generalizing s ls with
  | zero =>
    rw [cuts, List.singleton_eq_append_iff] at h
    simp_all [cuts]
  | succ n ih =>
    rw [cuts, cut?_append_cons hs hd]
    rw [cuts] at h
    cases hcut : cut? sep s with
    | none =>
      obtain ⟨rfl, rfl⟩ : ls = [] ∧ x = s := by simpa [hcut, List.singleton_eq_append_iff] using h
      rw [List.length_nil, Nat.sub_zero, cuts] at hu
      cases hrest : cut? sep (d :: t) <;> simp_all
    | some r =>
      simp only [hcut] at h
      cases ls with
      | nil => exact absurd (List.tail_eq_of_cons_eq h) (cuts_ne_nil sep n r.2)
      | cons l ls =>
        obtain ⟨rfl, hr⟩ := List.cons_eq_cons.1 h
        rw [List.length_cons, Nat.add_sub_add_right] at hu
        exact congrArg (r.1 :: ·) (ih hr hu)

theorem exists_cuts_cons (n : ℕ) (t : Text) : ∃ u us, cuts sep n (d :: t) = (d :: u) :: us := by
  cases n with
  | zero => exact ⟨t, [], rfl⟩
  | succ n =>
    have hp : sep.isPrefixOf (d :: t) = false := by
      rw [← List.nil_append (d :: t), isPrefixOf_append_cons hd]
      simpa [List.isPrefixOf_iff_prefix, ← Bool.not_eq_true] using hs
    rw [cuts, cut?, hp]
    cases cut? sep t with
    | none => exact ⟨t, [], rfl⟩
    | some r => exact ⟨r.1, cuts sep n r.2, rfl⟩

end

theorem append_of_cut? {sep s a b : Text} (h : cut? sep s = some (a, b)) : s = a ++ (sep ++ b) := by
  induction s generalizing a with
  | nil =>
    rw [cut?] at h
    split at h <;> simp_all
  | cons c s ih =>
    rw [cut?] at h
    split at h
    · rename_i hp
      cases h
      exact (List.prefix_iff_eq_append.1 (List.isPrefixOf_iff_prefix.1 hp)).symm
    · obtain ⟨⟨a', b'⟩, hr, he⟩ := Option.map_eq_some_iff.1 h
      cases he
      exact congrArg (c :: ·) (ih hr)

theorem length_lt_of_cut? {sep s a b : Text} (hs : sep ≠ []) (h : cut? sep s = some (a, b)) :
    b.length < s.length := by
  have hpos := List.length_pos_iff.2 hs
  rw [append_of_cut? h, List.length_append, List.length_append]
  omega

theorem cut?_append_self {c : Char} {sep a : Text} (h : c ∉ a) (b : Text) :
    cut? (c :: sep) (a ++ (c :: sep ++ b)) = some (a, b) := by
  induction a with
  | nil =>
    have hbegins : (c :: sep).isPrefixOf (c :: (sep ++ b)) = true := by
      rw [List.isPrefixOf_iff_prefix, ← List.cons_append]
      exact List.prefix_append _ b
    rw [List.nil_append, List.cons_append, cut?, if_pos hbegins, ← List.cons_append,
      List.drop_left]
  | cons d a ih =>
    rw [List.mem_cons, not_or] at h
    have hbegins : (c :: sep).isPrefixOf (d :: (a ++ (c :: sep ++ b))) = false := by
      rw [List.isPrefixOf, beq_false_of_ne h.1, Bool.false_and]
    rw [List.cons_append, cut?, hbegins, ih h.2]
    rfl

theorem exists_of_cuts {sep : Text} (hs : sep ≠ []) {n : ℕ} {s x : Text} {ls : List Text}
    (h : cuts sep n s = ls ++ [x]) : ∃ a, s = a ++ x ∧ ∀ c ∈ a.getLast?, c ∈ sep := by
  induction n generalizing s ls with
  | zero =>
    obtain ⟨-, rfl⟩ : ls = [] ∧ x = s := by simpa [cuts, List.singleton_eq_append_iff] using h
    exact ⟨[], rfl, by simp⟩
  | succ n ih =>
    rw [cuts] at h
    cases hcut : cut? sep s with
    | none =>
      obtain ⟨-, rfl⟩ : ls = [] ∧ x = s := by simpa [hcut, List.singleton_eq_append_iff] using h
      exact ⟨[], rfl, by simp⟩
    | some r =>
      simp only [hcut] at h
      cases ls with
      | nil => exact absurd (List.tail_eq_of_cons_eq h) (cuts_ne_nil sep n r.2)
      | cons l ls =>
        obtain ⟨a, ha, hl⟩ := ih (List.tail_eq_of_cons_eq h)
        refine ⟨r.1 ++ (sep ++ a), ?_, fun c hc ↦ ?_⟩
        · rw [append_of_cut? hcut, ha]
          simp
        · rw [List.getLast?_append_of_ne_nil _ (by simp [hs])] at hc
          cases hlast : a.getLast? with
          | none =>
            rw [List.getLast?_eq_none_iff.1 hlast, List.append_nil] at hc
            exact List.mem_of_getLast? hc
          | some d =>
            rw [List.getLast?_append, hlast] at hc
            cases hc
            exact hl _ hlast

theorem dropWhile_append_cons {d : Char} (hd : isBlank d = false) (s t : Text) :
    (s ++ d :: t).dropWhile isBlank = s.dropWhile isBlank ++ d :: t := by
  rw [List.dropWhile_append, List.dropWhile_cons_of_neg (by simp [hd])]
  split
  · rename_i h
    rw [List.isEmpty_iff.1 h, List.nil_append]
  · rfl

theorem rdropWhile_append_cons {d : Char} (hd : isBlank d = false) (s t : Text) :
    (s ++ d :: t).rdropWhile isBlank = s ++ d :: t.rdropWhile isBlank := by
  rw [List.rdropWhile, List.reverse_append, List.reverse_cons, List.append_assoc,
    List.singleton_append, dropWhile_append_cons hd]
  simp [List.rdropWhile]

theorem trim_eq_dropWhile {s : Text} (hs : ∀ c ∈ s.getLast?, isBlank c = false) :
    trim s = s.dropWhile isBlank := by
  refine List.rdropWhile_eq_self_iff.2 fun hne ↦ ?_
  have hsuffix : s.dropWhile isBlank <:+ s := List.dropWhile_suffix isBlank
  rw [hsuffix.getLast hne, hs _ (List.getLast?_eq_some_getLast _)]
  exact Bool.false_ne_true

theorem mem_getLast?_of_trim {s : Text} (hs : ∀ c ∈ s.getLast?, isBlank c = false) {c : Char}
    (hc : c ∈ (trim s).getLast?) : c ∈ s.getLast? := by
  obtain ⟨a, ha⟩ : s.dropWhile isBlank <:+ s := List.dropWhile_suffix isBlank
  rw [trim_eq_dropWhile hs] at hc
  rw [← ha, List.getLast?_append, Option.mem_def.1 hc]
  rfl

theorem trim_append_cons {d : Char} (hd : isBlank d = false) {s : Text}
    (hs : ∀ c ∈ s.getLast?, isBlank c = false) (t : Text) :
    trim (s ++ d :: t) = trim s ++ d :: t.rdropWhile isBlank := by
  calc
    trim (s ++ d :: t) = ((s ++ d :: t).dropWhile isBlank).rdropWhile isBlank := rfl
    _ = s.dropWhile isBlank ++ d :: t.rdropWhile isBlank := by
      rw [dropWhile_append_cons hd, rdropWhile_append_cons hd]
    _ = trim s ++ d :: t.rdropWhile isBlank := by rw [trim_eq_dropWhile hs]

end BookIndex.Text
