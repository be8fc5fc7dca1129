import BookIndex.Encoding.Codec

namespace BookIndex

theorem Text.exists_of_decompose? {c base : Char} {a : Accent} (h : decompose? c = some (base, a)) :
    a ∈ Accent.all ∧ ∃ p ∈ a.table, p.1 = c.toNat ∧ base = Char.ofNat p.2 := by
  obtain ⟨b, hb, hr⟩ := List.exists_of_findSome?_eq_some h
  obtain ⟨n, hn, he⟩ := Option.map_eq_some_iff.1 hr
  cases he
  obtain ⟨l₁, l₂, hl, -⟩ := List.lookup_eq_some_iff.1 hn
  exact ⟨hb, (c.toNat, n), by simp [hl], rfl, rfl⟩

theorem Text.base_ne_separator {c base : Char} {a : Accent} (h : decompose? c = some (base, a)) :
    base ≠ '!' ∧ base ≠ '@' ∧ base ≠ '|' := by
  have bases : ∀ a ∈ Accent.all, ∀ p ∈ a.table,
      Char.ofNat p.2 ≠ '!' ∧ Char.ofNat p.2 ≠ '@' ∧ Char.ofNat p.2 ≠ '|' := by decide
  obtain ⟨ha, p, hp, -, rfl⟩ := exists_of_decompose? h
  exact bases a ha p hp

namespace Charset

theorem macro?_cases {s : Charset} {c : Char} {m : Text} (h : s.macro? c = some m) :
    (c, m) ∈ specialMacros ∨ ∃ base a, Text.decompose? c = some (base, a) ∧
      s.canEncode base = true ∧ m = ['\\', accentMacro a, '{', base, '}'] := by
  unfold macro? at h
  cases hs : specialMacros.lookup c with
  | some m' =>
    rw [hs] at h
    cases h
    obtain ⟨l₁, l₂, hl, -⟩ := List.lookup_eq_some_iff.1 hs
    exact .inl (by simp [hl])
  | none =>
    simp only [hs] at h
    split at h
    · rename_i base a hd
      split at h
      · rename_i hbase
        cases h
        exact .inr ⟨base, a, hd, hbase, rfl⟩
      · cases h
    · cases h

theorem macro_no_separator {s : Charset} {c : Char} {m : Text} (h : s.macro? c = some m) :
    ∀ d ∈ m, d ≠ '!' ∧ d ≠ '@' ∧ d ≠ '|' := by
  rcases macro?_cases h with hm | ⟨base, a, hc, -, rfl⟩
  · have special : ∀ p ∈ specialMacros, '!' ∉ p.2 ∧ '@' ∉ p.2 ∧ '|' ∉ p.2 := by decide
    obtain ⟨level, sort, bar⟩ := special (c, m) hm
    intro d hd
    exact ⟨fun he ↦ level (he ▸ hd), fun he ↦ sort (he ▸ hd), fun he ↦ bar (he ▸ hd)⟩
  · have accent : accentMacro a ≠ '!' ∧ accentMacro a ≠ '@' ∧ accentMacro a ≠ '|' := by
      cases a <;> decide
    have base := Text.base_ne_separator hc
    simpa [accent] using base

theorem getLast?_macro {s : Charset} {c : Char} {m : Text} (h : s.macro? c = some m) :
    ∃ d, m.getLast? = some d ∧ d ≠ '\\' ∧ d ≠ '"' := by
  rcases macro?_cases h with hm | ⟨base, a, -, -, rfl⟩
  · have special : ∀ p ∈ specialMacros, p.2.getLast?.any (fun d ↦ d != '\\' && d != '"') = true := by
      decide
    obtain ⟨d, hd, hne⟩ := (Option.any_eq_true _ _).1 (special (c, m) hm)
    exact ⟨d, hd, by simpa using hne⟩
  · exact ⟨'}', rfl, by decide, by decide⟩

theorem macro?_of_ascii (s : Charset) {c : Char} (hc : c.toNat < 128) : s.macro? c = none := by
  have special : ∀ p ∈ specialMacros, 128 ≤ p.1.toNat := by decide
  have accented : ∀ a ∈ Text.Accent.all, ∀ p ∈ a.table, 128 ≤ p.1 := by decide
  have hspecial : specialMacros.lookup c = none := by
    rw [List.lookup_eq_none_iff]
    intro p hp
    rw [bne_iff_ne]
    rintro rfl
    exact absurd (special p hp) (Nat.not_le.2 hc)
  have haccent : Text.decompose? c = none := by
    rw [Option.eq_none_iff_forall_ne_some]
    rintro ⟨base, a⟩ h
    obtain ⟨ha, p, hp, hpc, -⟩ := Text.exists_of_decompose? h
    exact absurd (hpc ▸ accented a ha p hp) (Nat.not_le.2 hc)
  rw [macro?, hspecial, haccent]

theorem writeChar_cases (s : Charset) (preview : Bool) (c : Char) :
    (s.writeChar preview c = [c] ∧ (preview || !s.isLost c) = true) ∨
      (∃ m, s.macro? c = some m ∧ s.writeChar preview c = m ∧ s.isLost c = false) ∨
      (s.writeChar preview c = [] ∧ (preview || !s.isLost c) = false) := by
  unfold writeChar isLost
  cases he : s.canEncode c with
  | true => simp
  | false =>
    cases hm : s.macro? c with
    | some m => simp
    | none => cases preview <;> simp

theorem writeChar_of_ascii {s : Charset} (hs : s.HoldsAscii) (preview : Bool) {c : Char}
    (hc : c.toNat < 128) : s.writeChar preview c = [c] := by
  simp [writeChar, hs c hc]

theorem mem_writeChar {s : Charset} {preview : Bool} {c d : Char}
    (h : d ∈ s.writeChar preview c) : d = c ∨ (d ≠ '!' ∧ d ≠ '@' ∧ d ≠ '|') := by
  unfold writeChar at h
  split at h
  · exact .inl (List.mem_singleton.1 h)
  · split at h
    · rename_i m hm
      exact .inr (macro_no_separator hm d h)
    · split at h
      · exact .inl (List.mem_singleton.1 h)
      · simp at h

end Charset
end BookIndex
