import BookIndex.Proofs.Latex.Keys
import BookIndex.Proofs.Markup.Joined

namespace BookIndex.Latex

open Markup

/-- What a character of the source leaves in a key. -/
def keyChar (s : Charset) (preview : Bool) (c : Char) : Text :=
  (s.writeChar preview c).flatMap (protectChar '"')

def leaves (s : Charset) (preview : Bool) (c : Char) : Bool :=
  c != '\\' && (preview || !s.isLost c)

/-- The characters of a source that leave something in its key. -/
def kept (s : Charset) (preview : Bool) (source : Text) : Text := source.filter (leaves s preview)

variable {s : Charset} {preview : Bool}

theorem keyChar_of_not_leaves {c : Char} (h : leaves s preview c = false) :
    keyChar s preview c = [] := by
  unfold leaves at h
  rcases Charset.writeChar_cases s preview c with ⟨hw, hk⟩ | ⟨m, hm, -, hlost⟩ | ⟨hw, -⟩
  · rw [hk, Bool.and_true, bne_eq_false_iff_eq] at h
    rw [keyChar, hw, h]
    rfl
  · rw [hlost, Bool.not_false, Bool.or_true, Bool.and_true, bne_eq_false_iff_eq] at h
    rw [h, Charset.macro?_of_ascii s (by decide)] at hm
    cases hm
  · rw [keyChar, hw, List.flatMap_nil]

theorem keyChar_at (h : leaves s preview '@' = true) : keyChar s preview '@' = ['@'] := by
  rcases Charset.writeChar_cases s preview '@' with ⟨hw, -⟩ | ⟨m, hm, -, -⟩ | ⟨-, hk⟩
  · rw [keyChar, hw]
    rfl
  · rw [Charset.macro?_of_ascii s (by decide)] at hm
    cases hm
  · rw [leaves, hk, Bool.and_false] at h
    cases h

theorem at_not_mem_keyChar {c : Char} (hc : c ≠ '@') : '@' ∉ keyChar s preview c := by
  intro h
  obtain ⟨d, hd, hat⟩ := List.mem_flatMap.1 h
  have hd' : d = '@' := by
    rcases mem_protectChar hat with h | h
    · cases h
    · exact h.symm
  rcases Charset.mem_writeChar hd with rfl | ⟨-, hne, -⟩
  · exact hc hd'
  · exact hne hd'

theorem getLast?_keyChar {c : Char} (h : leaves s preview c = true) :
    ∃ d, (keyChar s preview c).getLast? = some d ∧ (d = '"' ↔ c = '"') := by
  rcases Charset.writeChar_cases s preview c with ⟨hw, -⟩ | ⟨m, hm, hw, -⟩ | ⟨-, hk⟩
  · have hb : c ≠ '\\' := bne_iff_ne.1 (Bool.and_eq_true_iff.1 h).1
    refine ⟨c, ?_, Iff.rfl⟩
    rw [keyChar, hw, List.flatMap_singleton, protectChar, if_neg hb]
    split
    · rename_i hq
      rw [hq]
      rfl
    · rfl
  · obtain ⟨d, hd, hb, hq⟩ := Charset.getLast?_macro hm
    obtain ⟨front, rfl⟩ := List.getLast?_eq_some_iff.1 hd
    have hc : c ≠ '"' := by
      rintro rfl
      rw [Charset.macro?_of_ascii s (by decide)] at hm
      cases hm
    refine ⟨d, ?_, iff_of_false hq hc⟩
    rw [keyChar, hw, List.flatMap_append, List.flatMap_singleton, protectChar_of_ne hb hq,
      List.getLast?_concat]
  · rw [leaves, hk, Bool.and_false] at h
    cases h

theorem protectKey_write (s : Charset) (preview : Bool) (source : Text) :
    protectKey defaultEscape (s.write preview source).1 =
      (kept s preview source).flatMap (keyChar s preview) := by
  rw [defaultEscape, protectKey_eq_flatMap, Charset.write, List.flatMap_assoc]
  induction source with
  | nil => rfl
  | cons c source ih =>
    have hchar : (s.writeChar preview c).flatMap (protectChar '"') = keyChar s preview c := rfl
    have hkept : kept s preview (c :: source) =
        if leaves s preview c then c :: kept s preview source else kept s preview source :=
      List.filter_cons
    rw [List.flatMap_cons, ih, hchar, hkept]
    cases h : leaves s preview c with
    | true => rfl
    | false =>
      rw [keyChar_of_not_leaves h]
      rfl

theorem guarded_key_iff (source : Text) :
    Guarded isSortSeparator defaultEscape (protectKey defaultEscape (s.write preview source).1) ↔
      Guarded isSortSeparator defaultEscape (kept s preview source) := by
  rw [protectKey_write]
  refine guardedFrom_flatMap_iff ?_ ?_ ?_ Iff.rfl
  · intro c hc hsep
    obtain rfl : c = '@' := eq_of_beq hsep
    exact keyChar_at (List.mem_filter.1 hc).2
  · intro c hc hsep d hd
    rw [isSortSeparator, beq_eq_false_iff_ne] at hsep ⊢
    rintro rfl
    exact at_not_mem_keyChar hsep hd
  · intro c hc
    exact getLast?_keyChar (List.mem_filter.1 hc).2

theorem getLast?_key_iff (source : Text) :
    (protectKey defaultEscape (s.write preview source).1).getLast? = some '"' ↔
      (kept s preview source).getLast? = some '"' := by
  rw [protectKey_write]
  apply getLast?_flatMap_eq_iff
  intro c hc
  exact getLast?_keyChar (List.mem_filter.1 hc).2

theorem guarded_of_needsSortKey {esc level : Text} (h : needsSortKey esc level = true) :
    Guarded isSortSeparator esc level := by
  rw [guarded_iff_cut?_eq_none, ← Option.isNone_iff_eq_none]
  exact (Bool.and_eq_true_iff.1 h).2

theorem needsSortKey_keyedLevel_iff {level key : Text} (h : needsSortKey defaultEscape level = true) :
    needsSortKey defaultEscape (keyedLevel level (some key)) = true ↔
      Guarded isSortSeparator defaultEscape key ∧ key.getLast? = some '"' := by
  have hslash : (keyedLevel level (some key)).contains '\\' = true := by
    have hlevel := (Bool.and_eq_true_iff.1 h).1
    rw [List.contains_iff_mem] at hlevel ⊢
    exact List.mem_append_right key (List.mem_cons_of_mem '@' hlevel)
  have hat : isSortSeparator '@' = true := rfl
  rw [needsSortKey, hslash, Bool.true_and, Option.isNone_iff_eq_none, ← guarded_iff_cut?_eq_none]
  exact guarded_append_cons_iff hat (guarded_of_needsSortKey h)

/-- A level behind its generated key splits into the two exactly if what is kept of the source of the
key has no separator and does not end in the escape character. It needs another key exactly if there
is no separator, but the escape character at the end. -/
theorem split_keyedLevel_iff (s : Charset) (preview : Bool) {level : Text} (plain : Text)
    (htrim : Text.trim level = level) (hneeds : needsSortKey defaultEscape level = true) :
    ∃ key log,
      sortKey (Codec.charset s).validator preview defaultEscape level plain = .ok (key, log) ∧
      (split isSortSeparator defaultEscape (keyedLevel level (some key)) = [Text.trim key, level] ↔
        positions isSortSeparator defaultEscape (kept s preview (keySource level plain)) = [] ∧
          (kept s preview (keySource level plain)).getLast? ≠ some '"') ∧
      (needsSortKey defaultEscape (keyedLevel level (some key)) = true ↔
        positions isSortSeparator defaultEscape (kept s preview (keySource level plain)) = [] ∧
          (kept s preview (keySource level plain)).getLast? = some '"') := by
  have hat : isSortSeparator '@' = true := rfl
  have hsep : ∀ c, isSortSeparator c = true → escapes defaultEscape (some c) = false := by
    intro c hc
    rw [eq_of_beq hc]
    rfl
  have hblank : ∀ c, Text.isBlank c = true → isSortSeparator c = false :=
    fun _ ↦ Text.beq_eq_false_of_isBlank (by decide)
  have hsplit : ∀ key : Text,
      split isSortSeparator defaultEscape (keyedLevel level (some key)) = [Text.trim key, level] ↔
        Guarded isSortSeparator defaultEscape key ∧ key.getLast? ≠ some '"' := by
    intro key
    have h := split_append_cons_iff (s := key) hat (hsep '@' hat) hsep hblank
      plainEscape_default.escapes_blank (guarded_of_needsSortKey hneeds)
    rwa [htrim] at h
  refine ⟨protectKey defaultEscape (s.write preview (keySource level plain)).1, _,
    sortKey_charset s preview defaultEscape level plain, ?_, ?_⟩
  · rw [positions_eq_nil_iff, ← guarded_key_iff, ne_eq, ← getLast?_key_iff, hsplit]
  · rw [positions_eq_nil_iff, ← guarded_key_iff, ← getLast?_key_iff]
    exact needsSortKey_keyedLevel_iff hneeds

def accented : Text := "\\emph\x7bÉ\"@bы\x7d".toList

/-- The sign behind the escape character is no separator, and the letter at the end is lost. -/
theorem split_keyedLevel_accented :
    Text.trim accented = accented ∧ needsSortKey defaultEscape accented = true ∧
    ∃ log,
      sortKey (Codec.charset .ascii).validator false defaultEscape accented "É\"@bы".toList =
        .ok ("'\x7bE\x7d\\\"@b".toList, log) ∧
      split isSortSeparator defaultEscape ("'\x7bE\x7d\\\"@b@".toList ++ accented) =
        ["'\x7bE\x7d\\\"@b".toList, accented] := by
  have htrim : Text.trim accented = accented := by decide
  have hneeds : needsSortKey defaultEscape accented = true := by decide
  obtain ⟨key, log, hkey, hsplit, -⟩ :=
    split_keyedLevel_iff .ascii false "É\"@bы".toList htrim hneeds
  have hk : key = "'\x7bE\x7d\\\"@b".toList := by
    have h := congrArg (fun r ↦ r.map Prod.fst) hkey
    exact (Except.ok.inj h).symm
  subst hk
  have hkept : kept .ascii false (keySource accented "É\"@bы".toList) = "É\"@b".toList := by decide
  rw [hkept] at hsplit
  exact ⟨htrim, hneeds, log, hkey, hsplit.2 ⟨by decide, by decide⟩⟩

def quoted : Text := "\"quoted\"".toList

def quotedLevel : Text := "\\emph\x7b\"quoted\"\x7d".toList

def quotedKey : Text := "\\\"quoted\\\"".toList

/-- A quotation mark at the end of a key is taken for an escape of the separator behind the key. -/
theorem split_of_quotedKey :
    Text.trim quotedLevel = quotedLevel ∧ Text.trim quoted = quoted ∧
    positions isLevelSeparator defaultEscape quotedLevel = [] ∧
    positions isCommandSeparator defaultEscape quotedLevel = [] ∧
    positions isLevelSeparator defaultEscape quoted = [] ∧
    positions isCommandSeparator defaultEscape quoted = [] ∧
    needsSortKey defaultEscape quotedLevel = true ∧
    sortKey (Codec.charset .utf8).validator false defaultEscape quotedLevel quoted =
      .ok (quotedKey, []) ∧
    split isSortSeparator defaultEscape (keyedLevel quotedLevel (some quotedKey)) ≠
      [Text.trim quotedKey, quotedLevel] ∧
    needsSortKey defaultEscape (keyedLevel quotedLevel (some quotedKey)) = true := by
  decide +kernel

end BookIndex.Latex
