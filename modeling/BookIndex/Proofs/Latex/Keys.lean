import BookIndex.Latex.Render
import BookIndex.Proofs.Encoding.Macros
import BookIndex.Proofs.Markup.Escape

namespace BookIndex.Latex

open Markup

/-- The keys that a character set gives to levels, each from the plain level of the same depth. -/
def keysOf (s : Charset) (preview : Bool) (esc : Text) : List Text → List Text → List (Option Text)
  | [], _ => []
  | level :: levels, plains =>
    (if needsSortKey esc level then
      some (protectKey esc (s.write preview (keySource level (plains.headD []))).1)
    else none) :: keysOf s preview esc levels plains.tail

theorem exists_sortKeys {o : Options} {s : Charset} (hv : o.validator = (Codec.charset s).validator)
    (levels plains : List Text) :
    ∃ log, sortKeys o levels plains = .ok (keysOf s o.preview o.escape levels plains, log) := by
  induction levels generalizing plains with
  | nil => exact ⟨[], rfl⟩
  | cons level levels ih =>
    obtain ⟨log, hlog⟩ := ih plains.tail
    rw [sortKeys, keysOf, hlog]
    cases hn : needsSortKey o.escape level
    · exact ⟨log, rfl⟩
    · simp only [hv, sortKey_charset]
      exact ⟨_, rfl⟩

theorem render_eq_bind {o : Options} (hverbatim : o.verbatim = false) (markup plain : Text)
    (index : Option Text) :
    render o markup plain index =
      (sortKeys o (splitMarkup o.escape markup).1 (splitMarkup o.escape plain).1).bind fun r ↦
        .ok (renderLevels o.useIndices index (splitMarkup o.escape markup).1 r.1
          (splitMarkup o.escape markup).2, r.2) := by
  unfold render
  rw [hverbatim]
  rfl

theorem render_of_charset {o : Options} {s : Charset}
    (hv : o.validator = (Codec.charset s).validator) (hverbatim : o.verbatim = false)
    (markup plain : Text) (index : Option Text) :
    ∃ log, render o markup plain index =
      .ok (renderLevels o.useIndices index (splitMarkup o.escape markup).1
        (keysOf s o.preview o.escape (splitMarkup o.escape markup).1
          (splitMarkup o.escape plain).1) (splitMarkup o.escape markup).2, log) := by
  obtain ⟨log, hkeys⟩ := exists_sortKeys hv (splitMarkup o.escape markup).1
    (splitMarkup o.escape plain).1
  refine ⟨log, ?_⟩
  rw [render_eq_bind hverbatim, hkeys]
  rfl

def protectChar (e c : Char) : Text := if c = '\\' then [] else if c = e then ['\\', e] else [c]

theorem protectChar_slash (e : Char) : protectChar e '\\' = [] := if_pos rfl

theorem protectChar_self {e : Char} (he : e ≠ '\\') : protectChar e e = ['\\', e] := by
  rw [protectChar, if_neg he, if_pos rfl]

theorem protectChar_of_ne {e c : Char} (hslash : c ≠ '\\') (hc : c ≠ e) :
    protectChar e c = [c] := by
  rw [protectChar, if_neg hslash, if_neg hc]

variable {sep : Char → Bool} {e : Char}

theorem protectKey_eq_flatMap (e : Char) (key : Text) :
    protectKey [e] key = key.flatMap (protectChar e) := by
  have hprotect : protectKey [e] key =
      Text.replace [e] ['\\', e] (Text.replace ['\\'] [] key) := rfl
  rw [hprotect, Text.replace_singleton, Text.replace_singleton, List.flatMap_assoc]
  congr 1
  funext c
  by_cases hc : c = '\\'
  · simp [protectChar, hc]
  · simp [protectChar, hc]

theorem mem_protectChar {e c d : Char} (h : d ∈ protectChar e c) : d = '\\' ∨ d = c := by
  unfold protectChar at h
  split at h
  · cases h
  · split at h
    · rename_i hc
      rw [hc]
      exact List.mem_pair.1 h
    · exact .inr (List.mem_singleton.1 h)

theorem Guarded.protectKey (he : PlainEscape e) (hs : ∀ c, sep c = true → c = '!' ∨ c = '|')
    {key : Text} (h : Guarded sep [e] key) : Guarded sep [e] (protectKey [e] key) := by
  have hne (d : Char) (h₁ : d ≠ '!') (h₂ : d ≠ '|') : sep d = false := by
    rw [Bool.eq_false_iff]
    exact fun hd ↦ (hs d hd).elim h₁ h₂
  have hbs := hne '\\' (by decide) (by decide)
  have hes := hne e he.ne_level he.ne_command
  rw [protectKey_eq_flatMap]
  refine GuardedFrom.flatMap ?_ ?_ ?_ id h
  · intro c hc
    rw [protectChar, if_neg, if_neg]
    · rintro rfl
      simp [hes] at hc
    · rintro rfl
      simp [hbs] at hc
  · intro c hc d hd
    rcases mem_protectChar hd with rfl | rfl
    · exact hbs
    · exact hc
  · simp [protectChar, he.ne_backslash]

theorem Guarded.write {s : Charset} (ascii : s.HoldsAscii) (he : PlainEscape e)
    (hs : ∀ c, sep c = true → c = '!' ∨ c = '|') (preview : Bool) {source : Text}
    (h : Guarded sep [e] source) : Guarded sep [e] (s.write preview source).1 := by
  refine GuardedFrom.flatMap (fun c hc ↦ ?_) (fun c hc d hd ↦ ?_) ?_ id h
  · refine Charset.writeChar_of_ascii ascii preview ?_
    rcases hs c hc with rfl | rfl <;> decide
  · rcases Charset.mem_writeChar hd with rfl | ⟨h₁, -, h₂⟩
    · exact hc
    · rw [Bool.eq_false_iff]
      exact fun hd ↦ (hs d hd).elim h₁ h₂
  · rw [Charset.writeChar_of_ascii ascii preview he.ascii]
    rfl

theorem guarded_keyedLevels {s : Charset} (ascii : s.HoldsAscii) (he : PlainEscape e)
    (hs : ∀ c, sep c = true → c = '!' ∨ c = '|') (preview : Bool) {levels plains : List Text}
    (hl : ∀ level ∈ levels, Guarded sep [e] level)
    (hp : ∀ plain ∈ plains, Guarded sep [e] plain) :
    ∀ part ∈ keyedLevels levels (keysOf s preview [e] levels plains), Guarded sep [e] part := by
  induction levels generalizing plains with
  | nil => simp [keyedLevels]
  | cons level levels ih =>
    intro part hpart
    have hlevel := hl level (by simp)
    rcases List.mem_cons.1 hpart with rfl | hpart
    · split
      · have hplain : Guarded sep [e] (plains.headD []) := by
          cases plains with
          | nil => trivial
          | cons plain plains => exact hp plain (by simp)
        have hsource : Guarded sep [e] (keySource level (plains.headD [])) := by
          unfold keySource
          split <;> assumption
        have hkey := Guarded.protectKey he hs (Guarded.write ascii he hs preview hsource)
        have hat : sep '@' = false := by
          rw [Bool.eq_false_iff]
          exact fun hc ↦ by simpa using hs '@' hc
        refine (guardedFrom_append _ _ _).2 ⟨hkey, ?_, hlevel.from _⟩
        simp [hat]
      · exact hlevel
    · refine ih (fun l h ↦ hl l (List.mem_cons_of_mem _ h)) (fun p h ↦ ?_) part hpart
      exact hp p (List.mem_of_mem_tail h)

end BookIndex.Latex
