import BookIndex.Proofs.Xml.Id
import BookIndex.Proofs.Xml.Names
import Mathlib.Data.List.Forall2

namespace BookIndex.Xml

/-- A text that starts with a letter or a low line and has only word characters, full stops and
hyphens. -/
structure IsId (s : Text) : Prop where
  ne_nil : s ≠ []
  start : ∀ c ∈ s.head?, isIdStart c = true
  chars : ∀ c ∈ s, isIdChar c = true

theorem isIdChar_of_isIdStart {c : Char} (h : isIdStart c = true) : isIdChar c = true := by
  rcases Bool.or_eq_true_iff.1 h with hletter | hlow
  · rw [isIdChar, Text.isWord_of_isLetter hletter]
    rfl
  · rw [eq_of_beq hlow]
    rfl

theorem isIdChar_idChar (c : Char) : isIdChar (idChar c) = true := by
  unfold idChar
  split
  · assumption
  · rfl

theorem idChar_eq_iff {c d : Char} :
    idChar c = idChar d ↔ c = d ∨ ∀ x ∈ [c, d], x = '_' ∨ isIdChar x = false := by
  have hlow : isIdChar '_' = true := rfl
  unfold idChar
  by_cases hc : isIdChar c = true <;> by_cases hd : isIdChar d = true <;> grind

theorem exists_cleanId_eq (s : Text) : ∃ front, cleanId s = front ++ s.map idChar ∧
    (front = ['_'] ∨ front = [] ∧ ∃ c u, s.map idChar = c :: u ∧ isIdStart c = true) := by
  unfold cleanId
  cases s.map idChar with
  | nil => exact ⟨['_'], rfl, .inl rfl⟩
  | cons c u =>
    by_cases hstart : isIdStart c = true
    · exact ⟨[], if_pos hstart, .inr ⟨rfl, c, u, rfl, hstart⟩⟩
    · exact ⟨['_'], if_neg hstart, .inl rfl⟩

theorem isId_cons {c : Char} {u : Text} (hstart : isIdStart c = true)
    (hu : ∀ d ∈ u, isIdChar d = true) : IsId (c :: u) where
  ne_nil := List.cons_ne_nil c u
  start := by
    rintro _ ⟨⟩
    exact hstart
  chars := List.forall_mem_cons.2 ⟨isIdChar_of_isIdStart hstart, hu⟩

theorem isId_cleanId (s : Text) : IsId (cleanId s) := by
  have hchars : ∀ c ∈ s.map idChar, isIdChar c = true := by
    intro c hc
    obtain ⟨d, -, rfl⟩ := List.mem_map.1 hc
    exact isIdChar_idChar d
  obtain ⟨front, hclean, rfl | ⟨rfl, c, u, hs, hstart⟩⟩ := exists_cleanId_eq s
  · rw [hclean]
    exact isId_cons rfl hchars
  · rw [hs] at hclean hchars
    rw [hclean]
    exact isId_cons hstart (List.forall_mem_cons.1 hchars).2

theorem IsId.cleanId_eq {s : Text} (h : IsId s) : cleanId s = s := by
  obtain ⟨c, u, rfl⟩ := List.exists_cons_of_ne_nil h.ne_nil
  rw [cleanId, map_idChar_eq_self h.chars]
  exact if_pos (h.start c rfl)

theorem cleanId_congr {s t : Text} (h : s.map idChar = t.map idChar) : cleanId s = cleanId t := by
  rw [cleanId, cleanId, h]

theorem map_idChar_eq_of_cleanId_eq {s t : Text} (hl : s.length = t.length)
    (h : cleanId s = cleanId t) : s.map idChar = t.map idChar := by
  obtain ⟨front, hs, -⟩ := exists_cleanId_eq s
  obtain ⟨front', ht, -⟩ := exists_cleanId_eq t
  rw [hs, ht] at h
  refine (List.append_inj' h ?_).2
  rw [List.length_map, List.length_map, hl]

theorem map_idChar_eq_iff {s t : Text} :
    s.map idChar = t.map idChar ↔
      List.Forall₂ (fun c d ↦ c = d ∨ ∀ x ∈ [c, d], x = '_' ∨ isIdChar x = false) s t := by
  simp only [← idChar_eq_iff]
  rw [← List.forall₂_eq_eq_eq, List.forall₂_map_left_iff, List.forall₂_map_right_iff]

/-- Cleaning leaves identifiers as they are and makes one of every text. Texts of one length collide
exactly if in each place they have the same character, or each a low line or a character that no
identifier keeps. -/
theorem cleanId_normal_form (s t : Text) :
    (cleanId s = s ↔ IsId s) ∧ cleanId (cleanId s) = cleanId s ∧
      (s.length = t.length ∧ cleanId s = cleanId t ↔
        List.Forall₂ (fun c d ↦ c = d ∨ ∀ x ∈ [c, d], x = '_' ∨ isIdChar x = false) s t) := by
  refine ⟨⟨fun h ↦ h ▸ isId_cleanId s, IsId.cleanId_eq⟩, (isId_cleanId s).cleanId_eq, ?_⟩
  rw [← map_idChar_eq_iff]
  constructor
  · rintro ⟨hl, h⟩
    exact map_idChar_eq_of_cleanId_eq hl h
  · intro h
    have hl := congrArg List.length h
    rw [List.length_map, List.length_map] at hl
    exact ⟨hl, cleanId_congr h⟩

example : cleanId "-é 1".toList = cleanId "_-é\t1".toList := by decide +kernel

end BookIndex.Xml
