import BookIndex.Files.Tree
import Mathlib.Data.List.Basic

namespace BookIndex.Files.Tree

variable {tree : Tree} {place : Location}

theorem lookup_put_self (tree : Tree) (place : Location) (node : Node) :
    (tree.put place node).lookup place = some node := by
  induction tree with
  | nil => simp [put]
  | cons entry tree ih =>
    rw [put]
    split
    · simp
    · rename_i h
      have hne : (place == entry.1) = false := beq_eq_false_iff_ne.2 (Ne.symm h)
      rw [List.lookup_cons, hne]
      exact ih

theorem lookup_put_of_ne {p : Location} (h : p ≠ place) (tree : Tree) (node : Node) :
    (tree.put place node).lookup p = tree.lookup p := by
  have hp : (p == place) = false := beq_eq_false_iff_ne.2 h
  induction tree with
  | nil => rw [put, List.lookup_cons, hp]
  | cons entry tree ih =>
    rw [put]
    split
    · rename_i he
      rw [List.lookup_cons, List.lookup_cons, he, hp]
    · rw [List.lookup_cons, List.lookup_cons, ih]

theorem node?_put_self (hplace : tree.isDirectory place = false) (hsink : place ≠ sink)
    (node : Node) : (tree.put place node).node? place = some node := by
  have htop : ¬(isTop place || place == sink.dropLast) = true := by
    intro h
    rw [isDirectory, node?, if_pos h] at hplace
    cases hplace
  rw [node?, if_neg htop, if_neg (by simpa using hsink), lookup_put_self]

theorem node?_put_of_ne {p : Location} (h : p ≠ place) (tree : Tree) (node : Node) :
    (tree.put place node).node? p = tree.node? p := by
  unfold node?
  rw [lookup_put_of_ne h]

theorem follow_put (hplace : tree.isDirectory place = false) (node : Node) {names : List Text}
    {start dest : Location} (h : tree.follow start names = .ok dest) :
    (tree.put place node).follow start names = .ok dest := by
  induction names generalizing start with
  | nil => exact h
  | cons name names ih =>
    rw [follow] at h
    cases hn : tree.node? start with
    | none =>
      rw [hn] at h
      cases h
    | some start' =>
      cases start' with
      | file content =>
        rw [hn] at h
        cases h
      | directory =>
        have hne : start ≠ place := by
          rintro rfl
          rw [isDirectory, hn] at hplace
          cases hplace
        simp only [hn] at h
        rw [follow, node?_put_of_ne hne, hn]
        split at h
        · rename_i hlen
          simp only [if_pos hlen]
          exact ih h
        · cases h

theorem locate_put (hplace : tree.isDirectory place = false) (node : Node) {path : Text}
    {dest : Location} (h : tree.locate path = .ok dest) :
    (tree.put place node).locate path = .ok dest := by
  unfold locate at h ⊢
  cases hpath : pathError? path with
  | some reason =>
    rw [hpath] at h
    cases h
  | none =>
    simp only [hpath] at h ⊢
    exact follow_put hplace node h

theorem locate_of_target {path : Text} (h : tree.target path = .ok place) :
    tree.locate path = .ok place ∧ tree.isDirectory place = false := by
  unfold target at h
  cases hpath : pathError? path with
  | some reason =>
    rw [hpath] at h
    cases h
  | none =>
    simp only [hpath] at h
    split at h
    · cases hf : tree.follow (origin path) ((parts (trimSlashes path)).dropLast ++ [['.']]) with
      | error reason =>
        rw [hf] at h
        cases h
      | ok dest =>
        rw [hf] at h
        cases h
    · cases hl : tree.locate path with
      | error reason =>
        rw [hl] at h
        cases h
      | ok dest =>
        cases hd : tree.isDirectory dest with
        | true =>
          simp only [hl, bind, Except.bind, hd, if_true] at h
          cases h
        | false =>
          simp only [hl, bind, Except.bind, hd] at h
          cases h
          exact ⟨rfl, hd⟩

theorem read_of_write {tree' : Tree} {path : Text} {content : Text}
    (h : tree.write path content = .ok tree') (hsink : tree.locate path ≠ .ok sink) :
    tree'.read path = .ok content := by
  unfold write at h
  cases ht : tree.target path with
  | error reason =>
    rw [ht] at h
    cases h
  | ok place =>
    obtain ⟨hlocate, hplace⟩ := locate_of_target ht
    have hne : place ≠ sink := by
      rintro rfl
      exact hsink hlocate
    simp only [ht, if_neg hne] at h
    cases h
    simp only [read, locate_put hplace _ hlocate, node?_put_self hplace hne]

end BookIndex.Files.Tree
