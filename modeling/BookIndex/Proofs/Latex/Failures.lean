import BookIndex.Proofs.Encoding.Failures
import BookIndex.Proofs.Latex.Keys

namespace BookIndex.Latex

open Markup

/-- An encoding cannot make the key of a level: the key is needed, and what it is made from has a
character that the encoding fails on. -/
def KeyFails (codec : Codec) (esc level plain : Text) : Prop :=
  needsSortKey esc level = true ∧ ∃ c ∈ keySource level plain, codec.FailsOn c

/-- An encoding cannot make the keys of an entry, each from the plain level of the same depth. -/
def KeysFail (codec : Codec) (esc : Text) (levels plains : List Text) : Prop :=
  ∃ (k : Nat) (level : Text), levels[k]? = some level ∧
    KeyFails codec esc level (plains[k]?.getD [])

theorem not_keyFails {codec : Codec} (h : codec.IsText) (esc level plain : Text) :
    ¬KeyFails codec esc level plain :=
  fun hkey ↦ hkey.2.elim fun c hc ↦ h.not_failsOn c hc.2

theorem not_keysFail {codec : Codec} (h : codec.IsText) (esc : Text) (levels plains : List Text) :
    ¬KeysFail codec esc levels plains := by
  rintro ⟨k, level, -, hkey⟩
  exact not_keyFails h esc level _ hkey

theorem keysFail_cons_iff {codec : Codec} {esc level : Text} {levels plains : List Text} :
    KeysFail codec esc (level :: levels) plains ↔
      KeyFails codec esc level (plains.headD []) ∨ KeysFail codec esc levels plains.tail := by
  have hhead : plains[0]?.getD [] = plains.headD [] := by cases plains <;> rfl
  have htail (k : Nat) : plains[k + 1]? = plains.tail[k]? := by cases plains <;> rfl
  constructor
  · rintro ⟨k, level', hk, hkey⟩
    cases k with
    | zero =>
      cases hk
      exact .inl (hhead ▸ hkey)
    | succ k => exact .inr ⟨k, level', hk, htail k ▸ hkey⟩
  · rintro (hkey | ⟨k, level', hk, hkey⟩)
    · exact ⟨0, level, rfl, hhead ▸ hkey⟩
    · exact ⟨k + 1, level', hk, (htail k).symm ▸ hkey⟩

variable {o : Options} {codec : Codec}

theorem sortKey_error_iff (preview : Bool) (esc level plain : Text) :
    (∃ e, sortKey codec.validator preview esc level plain = .error e) ↔
      ∃ c ∈ keySource level plain, codec.FailsOn c := by
  rw [sortKey, exists_bind_error_iff, ← Codec.validator_error_iff]
  refine or_iff_left ?_
  rintro ⟨written, -, e, he⟩
  cases he

def levelKey (o : Options) (level plain : Text) : Except Fault (Option Text × List Diagnostic) :=
  if needsSortKey o.escape level then do
    let (key, log) ← sortKey o.validator o.preview o.escape level plain
    pure (some key, log)
  else pure (none, [])

theorem sortKeys_cons (level : Text) (levels plains : List Text) :
    sortKeys o (level :: levels) plains = do
      let first ← levelKey o level (plains.headD [])
      let rest ← sortKeys o levels plains.tail
      return (first.1 :: rest.1, first.2 ++ rest.2) := by
  rw [sortKeys, levelKey]
  cases needsSortKey o.escape level with
  | false => rfl
  | true => cases sortKey o.validator o.preview o.escape level (plains.headD []) <;> rfl

theorem levelKey_error_iff (hv : o.validator = codec.validator) (level plain : Text) :
    (∃ e, levelKey o level plain = .error e) ↔ KeyFails codec o.escape level plain := by
  unfold levelKey KeyFails
  cases needsSortKey o.escape level with
  | false => exact iff_of_false not_exists_ok_eq_error fun h ↦ nomatch h.1
  | true =>
    rw [if_pos rfl, and_iff_right rfl, ← sortKey_error_iff o.preview o.escape, ← hv,
      exists_bind_error_iff]
    refine or_iff_left ?_
    rintro ⟨r, -, e, he⟩
    cases he

theorem sortKeys_error_iff (hv : o.validator = codec.validator) (levels plains : List Text) :
    (∃ e, sortKeys o levels plains = .error e) ↔ KeysFail codec o.escape levels plains := by
  induction levels generalizing plains with
  | nil =>
    refine iff_of_false not_exists_ok_eq_error ?_
    rintro ⟨k, level, hk, -⟩
    cases hk
  | cons level levels ih =>
    rw [sortKeys_cons, exists_bind_bind_error_iff, levelKey_error_iff hv, ih, keysFail_cons_iff]

theorem render_error_iff (hv : o.validator = codec.validator) (hverbatim : o.verbatim = false)
    (markup plain : Text) (index : Option Text) :
    (∃ e, render o markup plain index = .error e) ↔
      KeysFail codec o.escape (splitMarkup o.escape markup).1 (splitMarkup o.escape plain).1 := by
  rw [← sortKeys_error_iff hv, render_eq_bind hverbatim]
  cases sortKeys o (splitMarkup o.escape markup).1 (splitMarkup o.escape plain).1 with
  | error e => exact iff_of_true ⟨e, rfl⟩ ⟨e, rfl⟩
  | ok r => exact iff_of_false not_exists_ok_eq_error not_exists_ok_eq_error

end BookIndex.Latex
