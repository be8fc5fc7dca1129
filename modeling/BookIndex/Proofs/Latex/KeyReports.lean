import BookIndex.Latex.SortKey
import BookIndex.Proofs.Encoding.Written

namespace BookIndex.Latex

theorem exists_uncodable_iff (preview : Bool) (level source : Text) (written : Text × Text) :
    (∃ d ∈ keyDiagnostics preview level source written, d.kind = .uncodableSortCharacter) ↔
      written.2 ≠ [] := by
  simp only [keyDiagnostics, List.mem_append, List.mem_ite_nil_left, List.mem_singleton]
  constructor
  · rintro ⟨d, ⟨hlost, rfl⟩ | ⟨-, rfl⟩, hk⟩
    · rwa [List.isEmpty_iff] at hlost
    · cases hk
  · intro h
    exact ⟨_, .inl ⟨by rwa [List.isEmpty_iff], rfl⟩, rfl⟩

theorem exists_mismatch_iff (level source : Text) (written : Text × Text) :
    (∃ d ∈ keyDiagnostics false level source written, d.kind = .sortKeyMismatch) ↔
      written.1 ≠ source := by
  simp only [keyDiagnostics, List.mem_append, List.mem_ite_nil_left, List.mem_singleton,
    Bool.or_false, beq_iff_eq]
  constructor
  · rintro ⟨d, ⟨-, rfl⟩ | ⟨hchanged, rfl⟩, hk⟩
    · cases hk
    · exact hchanged
  · intro h
    exact ⟨_, .inr ⟨h, rfl⟩, rfl⟩

variable {s : Charset}

theorem filter_isLost_ne_nil_iff (t : Text) :
    t.filter s.isLost ≠ [] ↔ ∃ c ∈ t, s.canEncode c = false ∧ s.macro? c = none := by
  rw [ne_eq, List.filter_eq_nil_iff]
  simp [Charset.isLost]

theorem keyDiagnostics_write_iff (ascii : s.HoldsAscii) (level source : Text) :
    ((∃ d ∈ keyDiagnostics false level source (s.write false source),
        d.kind = .sortKeyMismatch) ↔ ∃ c ∈ source, s.canEncode c = false) ∧
      ((∃ d ∈ keyDiagnostics false level source (s.write false source),
        d.kind = .uncodableSortCharacter) ↔
          ∃ c ∈ source, s.canEncode c = false ∧ s.macro? c = none) := by
  constructor
  · rw [exists_mismatch_iff, ne_eq, Charset.write_eq_self_iff ascii]
    simp
  · rw [exists_uncodable_iff]
    exact filter_isLost_ne_nil_iff source

/-- What a validator gives for a text is in its character set and is given back as it is; the text is
changed exactly if it has characters outside the set, and those of them that have no macro are named
as lost, in order. A preview names the same ones and keeps them, and nothing else outside the set. So
a key is reported as changed exactly if its source has a character outside the set, and as having lost
something exactly if one of them has no macro. -/
theorem validator_representable (s : Charset) (ascii : s.HoldsAscii) :
    (∀ t : Text, ∃ written lost : Text,
      (Codec.charset s).validator false t = .ok (written, lost) ∧
      (∀ c ∈ written, (Codec.charset s).canEncode c = .ok true) ∧
      lost = t.filter (fun c ↦ !s.canEncode c && (s.macro? c).isNone) ∧
      (Codec.charset s).validator false written = .ok (written, []) ∧
      (written = t ↔ ∀ c ∈ t, s.canEncode c = true) ∧
      ∃ shown, (Codec.charset s).validator true t = .ok (shown, lost) ∧
        shown.filter s.canEncode = written) ∧
    ∀ esc level plain : Text, ∃ key log,
      sortKey (Codec.charset s).validator false esc level plain = .ok (key, log) ∧
      ((∃ d ∈ log, d.kind = .sortKeyMismatch) ↔
        ∃ c ∈ keySource level plain, s.canEncode c = false) ∧
      ((∃ d ∈ log, d.kind = .uncodableSortCharacter) ↔
        ∃ c ∈ keySource level plain, s.canEncode c = false ∧ s.macro? c = none) ∧
      ((∃ d ∈ log, d.kind = .uncodableSortCharacter) → ∃ d ∈ log, d.kind = .sortKeyMismatch) := by
  refine ⟨fun t ↦ ?_, fun esc level plain ↦ ?_⟩
  · have hwritten : ∀ c ∈ (s.write false t).1, s.canEncode c = true :=
      fun c hc ↦ Charset.canEncode_of_mem_write ascii hc
    refine ⟨(s.write false t).1, (s.write false t).2, Codec.validator_charset s false t, ?_, rfl, ?_,
      Charset.write_eq_self_iff ascii t, (s.write true t).1, Codec.validator_charset s true t,
      Charset.filter_write ascii true t⟩
    · exact fun c hc ↦ congrArg Except.ok (hwritten c hc)
    · rw [Codec.validator_charset, Charset.write_of_canEncode hwritten]
  · obtain ⟨hmismatch, hlost⟩ := keyDiagnostics_write_iff ascii level (keySource level plain)
    refine ⟨_, _, sortKey_charset s false esc level plain, hmismatch, hlost,
      fun h ↦ hmismatch.2 ?_⟩
    obtain ⟨c, hc, hout, -⟩ := hlost.1 h
    exact ⟨c, hc, hout⟩

/-- One letter has a macro of its own, one has an accent, and the sign has nothing. -/
def mixed : Text := "Straße☺É".toList

theorem validator_representable_mixed : Charset.ascii.HoldsAscii ∧
    (Codec.charset .ascii).validator false mixed = .ok ("Stra\\ss\x7b\x7de\\'\x7bE\x7d".toList, ['☺']) ∧
    (Codec.charset .ascii).validator false "Stra\\ss\x7b\x7de\\'\x7bE\x7d".toList =
      .ok ("Stra\\ss\x7b\x7de\\'\x7bE\x7d".toList, []) ∧
    ∃ key log, sortKey (Codec.charset .ascii).validator false ['"'] ['\\'] mixed = .ok (key, log) ∧
      (∃ d ∈ log, d.kind = .sortKeyMismatch) ∧ ∃ d ∈ log, d.kind = .uncodableSortCharacter := by
  have ascii : Charset.ascii.HoldsAscii := Charset.holdsAscii_of_mem_named (by simp [Charset.named])
  obtain ⟨htext, hkey⟩ := validator_representable .ascii ascii
  obtain ⟨written, lost, hwrite, -, -, hagain, -⟩ := htext mixed
  have hmixed : (Codec.charset .ascii).validator false mixed =
      .ok ("Stra\\ss\x7b\x7de\\'\x7bE\x7d".toList, ['☺']) := by rfl
  obtain ⟨rfl, rfl⟩ := Prod.mk.inj (Except.ok.inj (hmixed.symm.trans hwrite))
  obtain ⟨key, log, hlog, -, hlost, hboth⟩ := hkey ['"'] ['\\'] mixed
  have hsign : ∃ d ∈ log, d.kind = .uncodableSortCharacter :=
    hlost.2 ⟨'☺', by decide, by decide, by decide⟩
  exact ⟨ascii, hmixed, hagain, key, log, hlog, hboth hsign, hsign⟩

end BookIndex.Latex
