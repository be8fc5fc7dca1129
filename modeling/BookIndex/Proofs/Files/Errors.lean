import BookIndex.Files.Tree

namespace BookIndex.Files.Tree

theorem pathError?_eq_nul_iff (path : Text) : pathError? path = some .nul ↔ '\x00' ∈ path := by
  unfold pathError?
  cases path with
  | nil => exact iff_of_false nofun nofun
  | cons c path =>
    rw [if_neg (by simp)]
    by_cases hnul : '\x00' ∈ c :: path
    · rw [if_pos (List.contains_iff_mem.2 hnul)]
      exact iff_of_true rfl hnul
    · rw [if_neg fun h ↦ hnul (List.contains_iff_mem.1 h)]
      refine iff_of_false (fun h ↦ ?_) hnul
      split at h
      · cases h
      · cases h

theorem follow_ne_nul (tree : Tree) (place : Location) (names : List Text) :
    tree.follow place names ≠ .error .nul := by
  induction names generalizing place with
  | nil => exact nofun
  | cons name names ih =>
    rw [follow]
    split
    · exact nofun
    · exact nofun
    · split
      · exact ih _
      · exact nofun

theorem bind_ne_error {ε β γ : Type} {x : Except ε β} {f : β → Except ε γ} {e : ε}
    (hx : x ≠ .error e) (hf : ∀ b, f b ≠ .error e) : x >>= f ≠ .error e := by
  cases x with
  | error e' => exact fun h ↦ hx (congrArg Except.error (Except.error.inj h))
  | ok b => exact hf b

theorem target_eq_nul_iff (tree : Tree) (path : Text) :
    tree.target path = .error .nul ↔ '\x00' ∈ path := by
  rw [← pathError?_eq_nul_iff]
  unfold target
  cases hpath : pathError? path with
  | some reason => simp
  | none =>
    refine iff_of_false ?_ nofun
    simp only [locate, hpath]
    split
    · exact bind_ne_error (follow_ne_nul tree _ _) nofun
    · refine bind_ne_error (follow_ne_nul tree _ _) fun place ↦ ?_
      split
      · exact nofun
      · exact nofun

theorem write_nul_iff (tree : Tree) (path : Text) (content : Text) :
    (∃ e, tree.write path content = .error e ∧ e.reason = .nul) ↔ '\x00' ∈ path := by
  rw [← target_eq_nul_iff tree]
  unfold write
  cases tree.target path with
  | ok place => exact iff_of_false nofun nofun
  | error reason => simp

theorem find?_of_read {tree : Tree} {path : Text} {content : Text}
    (h : tree.read path = .ok content) : (tree.find? path).isNone = false := by
  unfold read at h
  unfold find?
  cases hplace : tree.locate path with
  | error reason =>
    rw [hplace] at h
    cases h
  | ok place =>
    simp only [hplace] at h ⊢
    cases hn : tree.node? place with
    | none =>
      rw [hn] at h
      cases h
    | some node => rfl

theorem reason_ne_nul_of_find? {tree : Tree} {path : Text} {e : Error}
    (h : tree.read path = .error e) (hfind : ¬(tree.find? path).isNone = true) :
    e.reason ≠ .nul := by
  unfold read at h
  unfold find? at hfind
  cases hplace : tree.locate path with
  | error reason =>
    rw [hplace] at hfind
    exact absurd rfl hfind
  | ok place =>
    simp only [hplace] at h
    cases hn : tree.node? place with
    | none =>
      simp only [hplace, hn] at hfind
      exact absurd rfl hfind
    | some node =>
      rw [hn] at h
      cases node with
      | directory =>
        cases h
        exact nofun
      | file content => cases h

end BookIndex.Files.Tree
