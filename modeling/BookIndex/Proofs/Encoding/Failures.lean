import BookIndex.Encoding.Codec
import BookIndex.Proofs.Fault

namespace BookIndex

namespace Codec

/-- An encoding of texts tells of every character whether it can write it. -/
def IsText (codec : Codec) : Prop := ∀ c, ∃ b, codec.canEncode c = .ok b

/-- An encoding fails on a character, or on the base that a macro for it would be made of. -/
def FailsOn (codec : Codec) (c : Char) : Prop :=
  (∃ e, codec.canEncode c = .error e) ∨
    codec.canEncode c = .ok false ∧ Charset.specialMacros.lookup c = none ∧
      ∃ base accent, Text.decompose? c = some (base, accent) ∧ ∃ e, codec.canEncode base = .error e

theorem isText_charset (s : Charset) : (charset s).IsText := fun c ↦ ⟨s.canEncode c, rfl⟩

variable {codec : Codec} {preview : Bool}

theorem IsText.not_failsOn (h : codec.IsText) (c : Char) : ¬codec.FailsOn c := by
  have hok (c : Char) : ¬∃ e, codec.canEncode c = .error e := by
    rintro ⟨e, he⟩
    obtain ⟨b, hb⟩ := h c
    rw [hb] at he
    cases he
  rintro (he | ⟨-, -, base, -, -, he⟩)
  · exact hok c he
  · exact hok base he

theorem macro?_error_iff (c : Char) : (∃ e, codec.macro? c = .error e) ↔
    Charset.specialMacros.lookup c = none ∧ ∃ base accent,
      Text.decompose? c = some (base, accent) ∧ ∃ e, codec.canEncode base = .error e := by
  unfold macro?
  cases Charset.specialMacros.lookup c with
  | some m => exact iff_of_false not_exists_ok_eq_error fun h ↦ nomatch h.1
  | none =>
    cases Text.decompose? c with
    | none =>
      refine iff_of_false not_exists_ok_eq_error ?_
      rintro ⟨-, base, accent, hd, -⟩
      cases hd
    | some p =>
      rw [exists_bind_error_iff]
      constructor
      · rintro (he | ⟨b, -, e, he⟩)
        · exact ⟨rfl, p.1, p.2, rfl, he⟩
        · cases b <;> cases he
      · rintro ⟨-, base, accent, hd, he⟩
        cases hd
        exact .inl he

theorem writeChar_error_iff (c : Char) :
    (∃ e, codec.writeChar preview c = .error e) ↔ codec.FailsOn c := by
  unfold writeChar
  rw [exists_bind_error_iff, FailsOn, ← macro?_error_iff]
  refine or_congr_right ?_
  constructor
  · rintro ⟨b, hb, he⟩
    cases b with
    | true =>
      obtain ⟨e, he⟩ := he
      cases he
    | false =>
      refine ⟨hb, ?_⟩
      rcases exists_bind_error_iff.1 he with he | ⟨m, -, e, he⟩
      · exact he
      · cases m <;> cases he
  · rintro ⟨hb, he⟩
    exact ⟨false, hb, exists_bind_error_iff.2 (.inl he)⟩

theorem validator_error_iff (t : Text) :
    (∃ e, codec.validator preview t = .error e) ↔ ∃ c ∈ t, codec.FailsOn c := by
  change (∃ e, codec.write preview t = .error e) ↔ _
  induction t with
  | nil =>
    refine iff_of_false not_exists_ok_eq_error ?_
    rintro ⟨c, hc, -⟩
    cases hc
  | cons c t ih =>
    rw [write, exists_bind_bind_error_iff, writeChar_error_iff, ih, List.exists_mem_cons_iff]

end Codec
end BookIndex
