import BookIndex.Proofs.Markup.Escape

namespace BookIndex.Markup

variable {sep : Char → Bool} {esc : Text}

theorem intercalate_pieces {c : Char} (hsep : ∀ d, sep d = true → d = c) (s : Text) :
    [c].intercalate (pieces sep esc s) = s := by
  have key : ∀ (s : Text) (prev : Option Char),
      [c].intercalate ((piecesFrom sep esc prev s).1 :: (piecesFrom sep esc prev s).2) = s := by
    intro s
    induction s with
    | nil => exact fun prev ↦ rfl
    | cons d s ih =>
      intro prev
      have hs := ih (some d)
      rw [piecesFrom]
      split
      · rename_i hd
        rw [List.intercalate_cons_cons, hs, hsep d (Bool.and_eq_true_iff.1 hd).1]
        rfl
      · cases hr : (piecesFrom sep esc (some d) s).2 <;> simpa [hr] using hs
  exact key s none

section

variable {c : Char} (hc : sep c = true) (he : escapes esc (some c) = false)

include hc he

theorem pieces_append_cons {p : Text} (hp : Guarded sep esc p) (t : Text) :
    pieces sep esc (p ++ c :: t) =
      if escapes esc p.getLast? then
        (p ++ c :: (piecesFrom sep esc none t).1) :: (piecesFrom sep esc none t).2
      else p :: pieces sep esc t := by
  have hn : piecesFrom sep esc (some c) t = piecesFrom sep esc none t := piecesFrom_congr he t
  simp only [pieces, piecesFrom_append hp, piecesFrom, Option.or_none, hc, hn, Bool.true_and]
  cases escapes esc p.getLast? <;> simp

theorem length_pieces_intercalate {parts : List Text} (hne : parts ≠ [])
    (hp : ∀ p ∈ parts, Guarded sep esc p) :
    (pieces sep esc ([c].intercalate parts)).length =
      (parts.dropLast.filter fun p ↦ !escapes esc p.getLast?).length + 1 := by
  induction parts with
  | nil => exact absurd rfl hne
  | cons p parts ih =>
    cases parts with
    | nil => simp [pieces_of_guarded (hp p (by simp))]
    | cons q parts =>
      have h := ih (by simp) (fun r hr ↦ hp r (List.mem_cons_of_mem _ hr))
      rw [List.intercalate_cons_cons, List.append_assoc, List.singleton_append,
        pieces_append_cons hc he (hp p (by simp)), List.dropLast_cons_cons, List.filter_cons]
      cases hl : escapes esc p.getLast?
      · simp [h]
      · simpa [pieces] using h

theorem pieces_intercalate {parts : List Text} (hne : parts ≠ [])
    (hp : ∀ p ∈ parts, Guarded sep esc p)
    (hl : ∀ p ∈ parts.dropLast, escapes esc p.getLast? = false) :
    pieces sep esc ([c].intercalate parts) = parts := by
  induction parts with
  | nil => exact absurd rfl hne
  | cons p parts ih =>
    cases parts with
    | nil => simp [pieces_of_guarded (hp p (by simp))]
    | cons q parts =>
      have h := ih (by simp) (fun r hr ↦ hp r (List.mem_cons_of_mem _ hr))
        (fun r hr ↦ hl r (List.mem_cons_of_mem _ hr))
      rw [List.intercalate_cons_cons, List.append_assoc, List.singleton_append,
        pieces_append_cons hc he (hp p (by simp)), hl p (by simp), h]
      simp

theorem split_intercalate_iff {parts : List Text} (hne : parts ≠ [])
    (hp : ∀ p ∈ parts, Guarded sep esc p) :
    split sep esc ([c].intercalate parts) = parts.map Text.trim ↔
      ∀ p ∈ parts.dropLast, escapes esc p.getLast? = false := by
  constructor
  · intro h
    have hlen := congrArg List.length h
    rw [split, List.length_map, List.length_map, length_pieces_intercalate hc he hne hp] at hlen
    have hpos := List.length_pos_iff.2 hne
    have hall : (parts.dropLast.filter fun p ↦ !escapes esc p.getLast?).length =
        parts.dropLast.length := by
      rw [List.length_dropLast]
      omega
    intro p hm
    simpa using List.length_filter_eq_length_iff.1 hall p hm
  · intro h
    rw [split, pieces_intercalate hc he hne hp h]

end

section

variable {e c : Char} (hc : sep c = true) (he : escapes [e] (some c) = false)

include hc he

omit he in
theorem guarded_append_cons_iff {s t : Text} (ht : Guarded sep [e] t) :
    Guarded sep [e] (s ++ c :: t) ↔ Guarded sep [e] s ∧ s.getLast? = some e := by
  have hrest : GuardedFrom sep [e] (some c) t := ht.from _
  rw [Guarded, guardedFrom_append, GuardedFrom, Option.or_none, escapes_singleton_iff]
  simp [hc, hrest, Guarded]

theorem split_append_cons_iff {s t : Text} (hsep : ∀ c, sep c = true → escapes [e] (some c) = false)
    (hblank : ∀ c, Text.isBlank c = true → sep c = false)
    (hesc : ∀ c, Text.isBlank c = true → escapes [e] (some c) = false)
    (ht : Guarded sep [e] t) : split sep [e] (s ++ c :: t) = [Text.trim s, Text.trim t] ↔
      Guarded sep [e] s ∧ s.getLast? ≠ some e := by
  constructor
  · intro h
    have hfirst : Text.trim s ∈ split sep [e] (s ++ c :: t) := by
      rw [h]
      exact List.mem_cons_self
    obtain ⟨piece, hpiece, htrim⟩ := List.mem_map.1 hfirst
    have hs : Guarded sep [e] s := by
      apply Guarded.of_trim hblank
      rw [← htrim]
      exact (guarded_of_mem_pieces hsep hpiece).trim hesc
    refine ⟨hs, fun hl ↦ ?_⟩
    have hwhole := (guarded_append_cons_iff hc ht).2 ⟨hs, hl⟩
    rw [split, pieces_of_guarded hwhole] at h
    simp at h
  · rintro ⟨hs, hl⟩
    have hne : escapes [e] s.getLast? = false := by
      rwa [Bool.eq_false_iff, ne_eq, escapes_singleton_iff]
    rw [split, pieces_append_cons hc he hs, hne, pieces_of_guarded ht]
    rfl

end

theorem guarded_intercalate {c : Char} (hc : sep c = false) {parts : List Text}
    (hp : ∀ p ∈ parts, Guarded sep esc p) : Guarded sep esc ([c].intercalate parts) := by
  induction parts with
  | nil => trivial
  | cons p parts ih =>
    cases parts with
    | nil => simpa using hp p
    | cons q parts =>
      have h := ih (fun r hr ↦ hp r (List.mem_cons_of_mem _ hr))
      rw [List.intercalate_cons_cons, List.append_assoc, List.singleton_append]
      refine (guardedFrom_append none p _).2 ⟨hp p (by simp), ?_, h.from _⟩
      simp [hc]

theorem escapes_intercalate {c : Char} (he : escapes esc (some c) = false) (parts : List Text) :
    escapes esc ([c].intercalate parts).getLast? =
      escapes esc (parts.getLast?.bind List.getLast?) := by
  induction parts with
  | nil => rfl
  | cons p parts ih =>
    cases parts with
    | nil => simp
    | cons q parts =>
      have hl : (p :: q :: parts).getLast? = (q :: parts).getLast? := by simp [List.getLast?_cons]
      rw [hl, ← ih, List.intercalate_cons_cons, List.append_assoc, List.singleton_append,
        List.getLast?_append, List.getLast?_cons]
      cases ([c].intercalate (q :: parts)).getLast? with
      | none => simpa using he
      | some d => rfl

end BookIndex.Markup
