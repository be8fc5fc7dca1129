import BookIndex.Xml.Id
import BookIndex.Proofs.Text.Lemmas

namespace BookIndex

namespace Text

theorem ofNat_injective : Function.Injective ofNat := by
  intro m n h
  calc
    m = Nat.ofDigitChars 10 (Nat.toDigits 10 m) 0 := Nat.ofDigitChars_ten_toDigits.symm
    _ = Nat.ofDigitChars 10 (Nat.toDigits 10 n) 0 := congrArg (Nat.ofDigitChars 10 · 0) h
    _ = n := Nat.ofDigitChars_ten_toDigits

theorem isDigit_of_mem_ofNat {n : Nat} {c : Char} (h : c ∈ ofNat n) : c.isDigit = true :=
  Nat.isDigit_of_mem_toDigits (by decide) (by decide) h

theorem hyphen_notMem_ofNat (n : Nat) : '-' ∉ ofNat n := fun h ↦ by
  simpa using isDigit_of_mem_ofNat h

theorem ofInt_injective : Function.Injective Text.ofInt := by
  intro m n h
  cases m with
  | ofNat m =>
    cases n with
    | ofNat n => exact congrArg Int.ofNat (ofNat_injective h)
    | negSucc n =>
      have hm : '-' ∈ ofNat m := by
        rw [show ofNat m = '-' :: ofNat (n + 1) from h]
        exact List.mem_cons_self
      exact absurd hm (hyphen_notMem_ofNat m)
  | negSucc m =>
    cases n with
    | ofNat n =>
      have hn : '-' ∈ ofNat n := by
        rw [← show '-' :: ofNat (m + 1) = ofNat n from h]
        exact List.mem_cons_self
      exact absurd hn (hyphen_notMem_ofNat n)
    | negSucc n =>
      have hmn := ofNat_injective (List.tail_eq_of_cons_eq h)
      rw [Nat.succ_injective hmn]

theorem append_hyphen_ofNat_inj {s t : Text} {m n : Nat} :
    s ++ '-' :: ofNat m = t ++ '-' :: ofNat n ↔ s = t ∧ m = n := by
  constructor
  · intro h
    have hr := congrArg List.reverse h
    simp only [List.reverse_append, List.reverse_cons, List.append_assoc, List.singleton_append] at hr
    obtain ⟨hn, hs⟩ := (append_cons_inj (by simpa using hyphen_notMem_ofNat m)
      (by simpa using hyphen_notMem_ofNat n)).1 hr
    exact ⟨List.reverse_injective hs, ofNat_injective (List.reverse_injective hn)⟩
  · rintro ⟨rfl, rfl⟩
    rfl

end Text

namespace Xml

theorem isIdChar_of_isDigit {c : Char} (h : c.isDigit = true) : isIdChar c = true := by
  have digits : ∀ n < 58, 48 ≤ n → isIdChar (Char.ofNat n) = true := by decide
  simp only [Char.isDigit, Bool.and_eq_true, decide_eq_true_eq] at h
  have hn := digits c.toNat (Nat.lt_succ_of_le h.2) h.1
  rwa [Char.ofNat_toNat] at hn

theorem map_idChar_eq_self {s : Text} (h : ∀ c ∈ s, isIdChar c = true) : s.map idChar = s := by
  conv_rhs => rw [← List.map_id s]
  refine List.map_congr_left fun c hc ↦ ?_
  simp [idChar, h c hc]

theorem cleanId_append_hyphen (s : Text) {t : Text} (h : ∀ c ∈ t, isIdChar c = true) :
    cleanId (s ++ '-' :: t) = cleanId s ++ '-' :: t := by
  have ht : ('-' :: t).map idChar = '-' :: t := map_idChar_eq_self (by simpa using ⟨by decide, h⟩)
  unfold cleanId
  rw [List.map_append, ht]
  cases s with
  | nil => rfl
  | cons c s =>
    rw [List.map_cons, List.cons_append]
    simp only
    split <;> rfl

theorem cleanId_append_integer (s : Text) (n : ℤ) :
    cleanId (s ++ '-' :: Text.ofInt n) = cleanId s ++ '-' :: Text.ofInt n := by
  apply cleanId_append_hyphen
  intro c hc
  cases n with
  | ofNat n => exact isIdChar_of_isDigit (Text.isDigit_of_mem_ofNat hc)
  | negSucc n =>
    rcases List.mem_cons.1 hc with rfl | hc
    · decide
    · exact isIdChar_of_isDigit (Text.isDigit_of_mem_ofNat hc)

end Xml
end BookIndex
