import BookIndex.Markup.Separator
import BookIndex.Proofs.Text.Lemmas

namespace BookIndex.Markup

/-- Every separator of a text that stands behind `prev` is escaped. -/
def GuardedFrom (sep : Char → Bool) (esc : Text) : Option Char → Text → Prop
  | _, [] => True
  | prev, c :: s => (sep c = true → escapes esc prev = true) ∧ GuardedFrom sep esc (some c) s

/-- Every separator of a text is escaped. -/
def Guarded (sep : Char → Bool) (esc : Text) (s : Text) : Prop := GuardedFrom sep esc none s

variable {sep : Char → Bool} {esc : Text}

theorem positionsFrom_eq_nil_iff (prev : Option Char) (i : Nat) (s : Text) :
    positionsFrom sep esc prev i s = [] ↔ GuardedFrom sep esc prev s := by
  induction s generalizing prev i with
  | nil => simp [positionsFrom, GuardedFrom]
  | cons c s ih =>
    rw [positionsFrom, GuardedFrom, ← ih (some c) (i + 1)]
    cases hc : sep c <;> cases he : escapes esc prev <;> simp

theorem positions_eq_nil_iff (s : Text) : positions sep esc s = [] ↔ Guarded sep esc s :=
  positionsFrom_eq_nil_iff none 0 s

theorem or_getLast?_cons (c : Char) (s : Text) (prev : Option Char) :
    (c :: s).getLast?.or prev = s.getLast?.or (some c) := by
  rw [List.getLast?_cons]
  cases s.getLast? <;> rfl

theorem guardedFrom_append (prev : Option Char) (s t : Text) :
    GuardedFrom sep esc prev (s ++ t) ↔
      GuardedFrom sep esc prev s ∧ GuardedFrom sep esc (s.getLast?.or prev) t := by
  induction s generalizing prev with
  | nil => simp [GuardedFrom]
  | cons c s ih =>
    rw [List.cons_append, GuardedFrom, GuardedFrom, ih, or_getLast?_cons, and_assoc]

theorem GuardedFrom.of_escapes {prev prev' : Option Char} {s : Text}
    (h : GuardedFrom sep esc prev s) (he : escapes esc prev = true → escapes esc prev' = true) :
    GuardedFrom sep esc prev' s := by
  cases s with
  | nil => trivial
  | cons c s => exact ⟨fun hc ↦ he (h.1 hc), h.2⟩

theorem Guarded.from {s : Text} (h : Guarded sep esc s) (prev : Option Char) :
    GuardedFrom sep esc prev s :=
  GuardedFrom.of_escapes h (by simp)

theorem GuardedFrom.guarded {prev : Option Char} {s : Text} (h : GuardedFrom sep esc prev s)
    (hp : escapes esc prev = false) : Guarded sep esc s :=
  h.of_escapes (by simp [hp])

theorem Guarded.middle {a s b : Text} (h : Guarded sep esc (a ++ s ++ b))
    (ha : escapes esc a.getLast? = false) : Guarded sep esc s := by
  have hs := (guardedFrom_append none (a ++ s) b).1 h
  have ht := ((guardedFrom_append none a s).1 hs.1).2
  rw [Option.or_none] at ht
  exact ht.guarded ha

theorem Guarded.trim {s : Text} (h : Guarded sep esc s)
    (hb : ∀ c, Text.isBlank c = true → escapes esc (some c) = false) :
    Guarded sep esc (Text.trim s) := by
  obtain ⟨a, b, hs, ha, -⟩ := Text.exists_trim s
  rw [hs] at h
  refine h.middle ?_
  cases hl : a.getLast? with
  | none => rfl
  | some c => exact hb c (ha c (List.mem_of_getLast? hl))

theorem piecesFrom_congr {prev prev' : Option Char} (he : escapes esc prev = escapes esc prev')
    (s : Text) : piecesFrom sep esc prev s = piecesFrom sep esc prev' s := by
  cases s with
  | nil => rfl
  | cons c s => simp only [piecesFrom, he]

theorem piecesFrom_append {prev : Option Char} {s : Text} (h : GuardedFrom sep esc prev s)
    (t : Text) :
    piecesFrom sep esc prev (s ++ t) =
      (s ++ (piecesFrom sep esc (s.getLast?.or prev) t).1,
        (piecesFrom sep esc (s.getLast?.or prev) t).2) := by
  induction s generalizing prev with
  | nil => rfl
  | cons c s ih =>
    have hc : (sep c && !escapes esc prev) = false := by
      cases hs : sep c
      · rfl
      · simp [h.1 hs]
    rw [List.cons_append, piecesFrom, ih h.2, or_getLast?_cons]
    simp [hc]

theorem pieces_of_guarded {s : Text} (h : Guarded sep esc s) : pieces sep esc s = [s] := by
  have hs := piecesFrom_append h []
  rw [List.append_nil] at hs
  simp [pieces, hs, piecesFrom]

theorem exists_of_mem_pieces {s p : Text} (hp : p ∈ pieces sep esc s) :
    ∃ a b, s = a ++ p ++ b ∧ ∀ c ∈ a.getLast?, sep c = true := by
  have key : ∀ (s : Text) (prev : Option Char),
      (∃ b, s = (piecesFrom sep esc prev s).1 ++ b) ∧
      ∀ p ∈ (piecesFrom sep esc prev s).2, ∃ a c b, s = a ++ c :: (p ++ b) ∧ sep c = true := by
    intro s
    induction s with
    | nil => exact fun prev ↦ ⟨⟨[], rfl⟩, by simp [piecesFrom]⟩
    | cons c s ih =>
      intro prev
      obtain ⟨⟨b, hb⟩, hr⟩ := ih (some c)
      simp only [piecesFrom]
      split
      · rename_i hc
        refine ⟨⟨c :: s, rfl⟩, fun p hp ↦ ?_⟩
        rcases List.mem_cons.1 hp with rfl | hp
        · exact ⟨[], c, b, congrArg (c :: ·) hb, (Bool.and_eq_true_iff.1 hc).1⟩
        · obtain ⟨a, d, b', hs, hd⟩ := hr p hp
          exact ⟨c :: a, d, b', congrArg (c :: ·) hs, hd⟩
      · refine ⟨⟨b, congrArg (c :: ·) hb⟩, fun p hp ↦ ?_⟩
        obtain ⟨a, d, b', hs, hd⟩ := hr p hp
        exact ⟨c :: a, d, b', congrArg (c :: ·) hs, hd⟩
  obtain ⟨⟨b, hb⟩, hr⟩ := key s none
  rcases List.mem_cons.1 hp with rfl | hp
  · exact ⟨[], b, hb, by simp⟩
  · obtain ⟨a, c, b', hs, hc⟩ := hr p hp
    exact ⟨a ++ [c], b', by simpa using hs, by simpa using hc⟩

section

variable (hsep : ∀ c, sep c = true → escapes esc (some c) = false)

include hsep

theorem guarded_of_mem_pieces {s p : Text} (hp : p ∈ pieces sep esc s) : Guarded sep esc p := by
  have key : ∀ (s : Text) (prev : Option Char),
      GuardedFrom sep esc prev (piecesFrom sep esc prev s).1 ∧
      ∀ p ∈ (piecesFrom sep esc prev s).2, Guarded sep esc p := by
    intro s
    induction s with
    | nil => exact fun prev ↦ ⟨trivial, by simp [piecesFrom]⟩
    | cons c s ih =>
      intro prev
      obtain ⟨h₁, h₂⟩ := ih (some c)
      simp only [piecesFrom]
      split
      · rename_i hc
        refine ⟨trivial, fun p hp ↦ ?_⟩
        rcases List.mem_cons.1 hp with rfl | hp
        · exact h₁.guarded (hsep c (Bool.and_eq_true_iff.1 hc).1)
        · exact h₂ p hp
      · rename_i hc
        refine ⟨⟨fun hs ↦ ?_, h₁⟩, h₂⟩
        simpa [hs] using hc
  obtain ⟨h₁, h₂⟩ := key s none
  rcases List.mem_cons.1 hp with rfl | hp
  · exact h₁
  · exact h₂ p hp

theorem Guarded.of_mem_pieces {sep' : Char → Bool} {s p : Text} (h : Guarded sep' esc s)
    (hp : p ∈ pieces sep esc s) : Guarded sep' esc p := by
  obtain ⟨a, b, hs, ha⟩ := exists_of_mem_pieces hp
  rw [hs] at h
  refine h.middle ?_
  cases hl : a.getLast? with
  | none => rfl
  | some c => exact hsep c (ha c hl)

end

theorem cutFrom_append {prev : Option Char} {s : Text} (h : GuardedFrom sep esc prev s) (t : Text) :
    cutFrom sep esc prev (s ++ t) =
      (cutFrom sep esc (s.getLast?.or prev) t).map fun r ↦ (s ++ r.1, r.2) := by
  induction s generalizing prev with
  | nil => simp
  | cons c s ih =>
    have hc : (sep c && !escapes esc prev) = false := by
      cases hs : sep c
      · rfl
      · simp [h.1 hs]
    rw [List.cons_append, cutFrom, ih h.2, or_getLast?_cons]
    simp [hc, Function.comp_def]

theorem cutFrom_append_of_eq_some {prev : Option Char} {s a b : Text}
    (h : cutFrom sep esc prev s = some (a, b)) (t : Text) :
    cutFrom sep esc prev (s ++ t) = some (a, b ++ t) := by
  induction s generalizing prev a with
  | nil => simp [cutFrom] at h
  | cons c s ih =>
    rw [cutFrom] at h
    rw [List.cons_append, cutFrom]
    split at h
    · rename_i hc
      cases h
      rw [if_pos hc]
    · rename_i hc
      obtain ⟨r, hr, he⟩ := Option.map_eq_some_iff.1 h
      cases he
      rw [if_neg hc, ih hr, Option.map_some]

theorem cut?_of_guarded {s : Text} (h : Guarded sep esc s) : cut? sep esc s = none := by
  have hs := cutFrom_append h []
  rw [List.append_nil] at hs
  simp [cut?, hs, cutFrom]

theorem guardedFrom_of_cutFrom_eq_none {prev : Option Char} {s : Text}
    (h : cutFrom sep esc prev s = none) : GuardedFrom sep esc prev s := by
  induction s generalizing prev with
  | nil => trivial
  | cons c s ih =>
    rw [cutFrom] at h
    split at h
    · simp at h
    · rename_i hc
      refine ⟨fun hs ↦ ?_, ih (Option.map_eq_none_iff.1 h)⟩
      simpa [hs] using hc

theorem guarded_iff_cut?_eq_none {s : Text} : Guarded sep esc s ↔ cut? sep esc s = none :=
  ⟨cut?_of_guarded, guardedFrom_of_cutFrom_eq_none⟩

theorem exists_of_cutFrom_eq_some {prev : Option Char} {s a b : Text}
    (h : cutFrom sep esc prev s = some (a, b)) :
    GuardedFrom sep esc prev a ∧ ∃ c, sep c = true ∧ s = a ++ c :: b := by
  induction s generalizing prev a with
  | nil => simp [cutFrom] at h
  | cons c s ih =>
    rw [cutFrom] at h
    split at h
    · rename_i hc
      cases h
      exact ⟨trivial, c, (Bool.and_eq_true_iff.1 hc).1, rfl⟩
    · rename_i hc
      obtain ⟨⟨a', b'⟩, hr, he⟩ := Option.map_eq_some_iff.1 h
      cases he
      obtain ⟨hg, d, hd, hs⟩ := ih hr
      refine ⟨⟨fun hs ↦ ?_, hg⟩, d, hd, congrArg (c :: ·) hs⟩
      simpa [hs] using hc

end BookIndex.Markup
