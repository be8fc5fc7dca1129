import BookIndex.Proofs.Markup.Escape
import BookIndex.Proofs.Text.Blanks

namespace BookIndex.Markup

section

variable {sep : Char → Bool} {esc : Text}

theorem cutFrom_congr {prev prev' : Option Char} (he : escapes esc prev = escapes esc prev')
    (s : Text) : cutFrom sep esc prev s = cutFrom sep esc prev' s := by
  cases s with
  | nil => rfl
  | cons c s => simp only [cutFrom, he]

theorem exists_pieces_append {b : Text} (hb : ∀ c ∈ b, sep c = false) (s : Text) :
    ∃ l last, pieces sep esc s = l ++ [last] ∧ pieces sep esc (s ++ b) = l ++ [last ++ b] := by
  have key (prev : Option Char) (s : Text) : ∃ l last,
      (piecesFrom sep esc prev s).1 :: (piecesFrom sep esc prev s).2 = l ++ [last] ∧
        (piecesFrom sep esc prev (s ++ b)).1 :: (piecesFrom sep esc prev (s ++ b)).2 =
          l ++ [last ++ b] := by
    induction s generalizing prev with
    | nil =>
      have hguard : GuardedFrom sep esc prev b := guardedFrom_of_no_separator prev hb
      have hpieces := piecesFrom_append hguard []
      rw [List.append_nil, piecesFrom, List.append_nil] at hpieces
      exact ⟨[], [], rfl, by rw [List.nil_append, hpieces]; rfl⟩
    | cons c s ih =>
      obtain ⟨l, last, hs, ht⟩ := ih (some c)
      simp only [List.cons_append, piecesFrom]
      split
      · exact ⟨[] :: l, last, congrArg ([] :: ·) hs, congrArg ([] :: ·) ht⟩
      · cases l with
        | nil =>
          obtain ⟨hs₁, hs₂⟩ := List.cons_eq_cons.1 hs
          obtain ⟨ht₁, ht₂⟩ := List.cons_eq_cons.1 ht
          exact ⟨[], c :: last, by rw [hs₁, hs₂]; rfl, by rw [ht₁, ht₂]; rfl⟩
        | cons p l =>
          obtain ⟨hs₁, hs₂⟩ := List.cons_eq_cons.1 hs
          obtain ⟨ht₁, ht₂⟩ := List.cons_eq_cons.1 ht
          exact ⟨(c :: p) :: l, last, by rw [hs₁, hs₂]; rfl, by rw [ht₁, ht₂]; rfl⟩
  exact key none s

variable (hsep : ∀ c, Text.isBlank c = true → sep c = false) {a b : Text}
  (ha : ∀ c ∈ a, Text.isBlank c = true) (hb : ∀ c ∈ b, Text.isBlank c = true)

include hsep

include hb in
theorem split_append_blanks (s : Text) : split sep esc (s ++ b) = split sep esc s := by
  obtain ⟨l, last, hs, hsb⟩ : ∃ l last, pieces sep esc s = l ++ [last] ∧
      pieces sep esc (s ++ b) = l ++ [last ++ b] :=
    exists_pieces_append (fun c hc ↦ hsep c (hb c hc)) s
  rw [split, split, hs, hsb, List.map_append, List.map_append, List.map_singleton,
    List.map_singleton, Text.trim_append_blanks hb]

include hb in
theorem cut?_append_blanks (s : Text) :
    cut? sep esc (s ++ b) = (cut? sep esc s).map fun r ↦ (r.1, r.2 ++ b) := by
  cases h : cut? sep esc s with
  | some r => rw [cut?, cutFrom_append_of_eq_some h, Option.map_some]
  | none =>
    have hguard : GuardedFrom sep esc none (s ++ b) :=
      (guardedFrom_append none s b).2 ⟨guardedFrom_of_cutFrom_eq_none h,
        guardedFrom_of_no_separator _ fun c hc ↦ hsep c (hb c hc)⟩
    exact cut?_of_guarded hguard

variable (hesc : ∀ c, Text.isBlank c = true → escapes esc (some c) = false)

include hesc ha

omit hsep in
theorem escapes_getLast?_blanks : escapes esc (a.getLast?.or none) = escapes esc none := by
  rw [Option.or_none]
  cases hl : a.getLast? with
  | none => rfl
  | some c => exact hesc c (ha c (List.mem_of_getLast? hl))

theorem split_blanks_append (s : Text) : split sep esc (a ++ s) = split sep esc s := by
  have hguard : GuardedFrom sep esc none a :=
    guardedFrom_of_no_separator none fun c hc ↦ hsep c (ha c hc)
  have hprev := escapes_getLast?_blanks ha hesc
  simp only [split, pieces, piecesFrom_append hguard, piecesFrom_congr hprev, List.map_cons,
    Text.trim_blanks_append ha]

theorem cut?_blanks_append (s : Text) :
    cut? sep esc (a ++ s) = (cut? sep esc s).map fun r ↦ (a ++ r.1, r.2) := by
  have hguard : GuardedFrom sep esc none a :=
    guardedFrom_of_no_separator none fun c hc ↦ hsep c (ha c hc)
  rw [cut?, cut?, cutFrom_append hguard, cutFrom_congr (escapes_getLast?_blanks ha hesc)]

end

end BookIndex.Markup
