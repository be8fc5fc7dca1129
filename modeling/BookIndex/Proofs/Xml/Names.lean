import BookIndex.Xml.Id
import Mathlib.Data.List.Basic

namespace BookIndex.Xml

open Text

def ncNameStartRanges : Ranges :=
  [(0x41, 0x5A), (0x5F, 0x5F), (0x61, 0x7A), (0xC0, 0xD6), (0xD8, 0xF6), (0xF8, 0x2FF),
    (0x370, 0x37D), (0x37F, 0x1FFF), (0x200C, 0x200D), (0x2070, 0x218F), (0x2C00, 0x2FEF),
    (0x3001, 0xD7FF), (0xF900, 0xFDCF), (0xFDF0, 0xFFFD), (0x10000, 0xEFFFF)]

def ncNameFurtherRanges : Ranges :=
  [(0x2D, 0x2E), (0x30, 0x39), (0xB7, 0xB7), (0x300, 0x36F), (0x203F, 0x2040)]

def isNCNameStart (c : Char) : Bool := ncNameStartRanges.has c

def isNCNameChar (c : Char) : Bool := isNCNameStart c || ncNameFurtherRanges.has c

/-- A name without a colon. -/
def isNCName : Text → Bool
  | [] => false
  | c :: s => isNCNameStart c && s.all isNCNameChar

/-- The letters and numbers that no name has: ordinal signs, the micro sign, superscript digits and
fractions of Latin-1, and numbers in circles and the like. -/
def strayRanges : Ranges :=
  [(0xAA, 0xAA), (0xB2, 0xB3), (0xB5, 0xB5), (0xB9, 0xB9), (0xBA, 0xBA), (0xBC, 0xBE),
    (0x2460, 0x249B), (0x24EA, 0x24FF), (0x2776, 0x2793)]

/-- No character of a text is a letter or number that no name has. -/
def Nameable (s : Text) : Prop := ∀ c ∈ s, strayRanges.has c = false

/-- Each range of a table lies in one of another table. -/
def within (table others : Ranges) : Bool :=
  table.all fun r ↦ others.any fun q ↦ q.1 ≤ r.1 && r.2 ≤ q.2

def apart (table others : Ranges) : Bool :=
  table.all fun r ↦ others.all fun q ↦ r.2 < q.1 || q.2 < r.1

def Ascending (table : Ranges) : Prop := table.IsChain (·.1 ≤ ·.1)

instance (table : Ranges) : Decidable (Ascending table) :=
  inferInstanceAs (Decidable (table.IsChain (·.1 ≤ ·.1)))

theorem Ascending.has_of_mem {table : Ranges} (h : Ascending table) {c : Char} {r : ℕ × ℕ}
    (hr : r ∈ table) (hfirst : r.1 ≤ c.toNat) (hlast : c.toNat ≤ r.2) : table.has c = true := by
  have htrans : IsTrans (ℕ × ℕ) (·.1 ≤ ·.1) := ⟨fun _ _ _ ↦ Nat.le_trans⟩
  exact Ranges.has_of_mem (List.isChain_iff_pairwise.1 h) hr hfirst hlast

theorem exists_has_of_within {table : Ranges} {tables : List Ranges}
    (h : within table tables.flatten = true) (hsorted : tables.Forall Ascending) {c : Char}
    (hc : table.has c = true) : ∃ t ∈ tables, t.has c = true := by
  obtain ⟨r, hr, hfirst, hlast⟩ := Ranges.exists_of_has hc
  obtain ⟨q, hq, hinside⟩ := List.any_eq_true.1 (List.all_eq_true.1 h r hr)
  obtain ⟨t, ht, hqt⟩ := List.mem_flatten.1 hq
  simp only [Bool.and_eq_true, decide_eq_true_eq] at hinside
  refine ⟨t, ht, (List.forall_iff_forall_mem.1 hsorted t ht).has_of_mem hqt ?_ ?_⟩
  · omega
  · omega

theorem has_eq_false_of_apart {table others : Ranges} (h : apart table others = true) {c : Char}
    (hc : table.has c = true) : others.has c = false := by
  rw [Bool.eq_false_iff]
  intro hother
  obtain ⟨r, hr, hfirst, hlast⟩ := Ranges.exists_of_has hc
  obtain ⟨q, hq, hfirst', hlast'⟩ := Ranges.exists_of_has hother
  have hout := List.all_eq_true.1 (List.all_eq_true.1 h r hr) q hq
  simp only [Bool.or_eq_true, decide_eq_true_eq] at hout
  omega

theorem ascending_ncNameStartRanges : Ascending ncNameStartRanges := by decide

theorem ascending_strayRanges : Ascending strayRanges := by decide

theorem ascending_ncNameFurtherRanges : Ascending ncNameFurtherRanges := by decide

theorem isNCNameStart_of_isLetter {c : Char} (hc : isLetter c = true)
    (hstray : strayRanges.has c = false) : isNCNameStart c = true := by
  have hwithin : within letterRanges [ncNameStartRanges, strayRanges].flatten = true := by
    decide +kernel
  obtain ⟨t, ht, htc⟩ := exists_has_of_within hwithin
    ⟨ascending_ncNameStartRanges, ascending_strayRanges⟩ hc
  simp only [List.mem_cons, List.not_mem_nil, or_false] at ht
  obtain rfl | rfl := ht
  · exact htc
  · rw [hstray] at htc
    cases htc

theorem isNCNameChar_of_isNCNameStart {c : Char} (h : isNCNameStart c = true) :
    isNCNameChar c = true := by
  rw [isNCNameChar, h, Bool.true_or]

theorem isNCNameChar_of_number {c : Char} (hc : numberRanges.has c = true)
    (hstray : strayRanges.has c = false) : isNCNameChar c = true := by
  have hwithin : within numberRanges
      [ncNameStartRanges, ncNameFurtherRanges, strayRanges].flatten = true := by decide +kernel
  obtain ⟨t, ht, htc⟩ := exists_has_of_within hwithin
    ⟨ascending_ncNameStartRanges, ascending_ncNameFurtherRanges, ascending_strayRanges⟩ hc
  simp only [List.mem_cons, List.not_mem_nil, or_false] at ht
  obtain rfl | rfl | rfl := ht
  · exact isNCNameChar_of_isNCNameStart htc
  · rw [isNCNameChar, htc, Bool.or_true]
  · rw [hstray] at htc
    cases htc

theorem isNCNameChar_of_isIdChar {c : Char} (hc : isIdChar c = true)
    (hstray : strayRanges.has c = false) : isNCNameChar c = true := by
  simp only [isIdChar, isWord, Bool.or_eq_true, beq_iff_eq] at hc
  obtain (((rfl | hletter) | hnumber) | rfl) | rfl := hc
  · decide
  · exact isNCNameChar_of_isNCNameStart (isNCNameStart_of_isLetter hletter hstray)
  · exact isNCNameChar_of_number hnumber hstray
  · decide
  · decide

theorem isNCNameChar_eq_false {c : Char} (h : strayRanges.has c = true) :
    isNCNameChar c = false := by
  have hstart : apart strayRanges ncNameStartRanges = true := by decide
  have hfurther : apart strayRanges ncNameFurtherRanges = true := by decide
  rw [isNCNameChar, isNCNameStart, has_eq_false_of_apart hstart h, has_eq_false_of_apart hfurther h]
  rfl

theorem isIdChar_of_stray {c : Char} (h : strayRanges.has c = true) : isIdChar c = true := by
  have hwithin : within strayRanges [letterRanges, numberRanges].flatten = true := by
    decide +kernel
  have hletters : Ascending letterRanges := by decide +kernel
  have hnumbers : Ascending numberRanges := by decide +kernel
  obtain ⟨t, ht, htc⟩ := exists_has_of_within hwithin ⟨hletters, hnumbers⟩ h
  simp only [List.mem_cons, List.not_mem_nil, or_false] at ht
  obtain rfl | rfl := ht
  · simp [isIdChar, isWord, isLetter, htc]
  · simp [isIdChar, isWord, htc]

theorem idChar_of_isIdChar {c : Char} (h : isIdChar c = true) : idChar c = c := if_pos h

theorem isNCNameChar_idChar (c : Char) : isNCNameChar (idChar c) = !strayRanges.has c := by
  cases hstray : strayRanges.has c with
  | true =>
    rw [idChar_of_isIdChar (isIdChar_of_stray hstray)]
    exact isNCNameChar_eq_false hstray
  | false =>
    by_cases hc : isIdChar c = true
    · rw [idChar_of_isIdChar hc]
      exact isNCNameChar_of_isIdChar hc hstray
    · rw [idChar, if_neg hc]
      decide

theorem isNCNameStart_idChar {c : Char} (h : isIdStart (idChar c) = true) :
    isNCNameStart (idChar c) = !strayRanges.has c := by
  cases hstray : strayRanges.has c with
  | true =>
    have hchar := isNCNameChar_idChar c
    rw [hstray, Bool.not_true, isNCNameChar, Bool.or_eq_false_iff] at hchar
    exact hchar.1
  | false =>
    by_cases hc : isIdChar c = true
    · rw [idChar_of_isIdChar hc] at h ⊢
      rcases Bool.or_eq_true_iff.1 h with hletter | hlow
      · exact isNCNameStart_of_isLetter hletter hstray
      · rw [eq_of_beq hlow]
        decide
    · rw [idChar, if_neg hc]
      decide

theorem nameable_append {s t : Text} : Nameable (s ++ t) ↔ Nameable s ∧ Nameable t :=
  List.forall_mem_append

theorem nameable_of_lt {s : Text} (h : ∀ c ∈ s, c.toNat < 0xAA) : Nameable s := by
  intro c hc
  have hfirst : ∀ r ∈ strayRanges, 0xAA ≤ r.1 := by decide
  rw [Bool.eq_false_iff]
  intro hstray
  obtain ⟨r, hr, hle, -⟩ := Ranges.exists_of_has hstray
  have hlow := hfirst r hr
  have hlt := h c hc
  omega

theorem isNCName_cleanId (s : Text) : isNCName (cleanId s) = true ↔ Nameable s := by
  have hrest (t : Text) : (t.map idChar).all isNCNameChar = true ↔ Nameable t := by
    simp [Nameable, isNCNameChar_idChar]
  have hlow : isNCNameStart '_' = true := by decide
  cases s with
  | nil => exact iff_of_true hlow (List.forall_mem_nil _)
  | cons c s =>
    rw [cleanId, List.map_cons]
    by_cases hstart : isIdStart (idChar c) = true
    · simp only [if_pos hstart, isNCName, Bool.and_eq_true, isNCNameStart_idChar hstart, hrest]
      simp [Nameable]
    · simp only [if_neg hstart, isNCName, hlow, Bool.true_and]
      rw [← List.map_cons, hrest]

end BookIndex.Xml
