import BookIndex.Proofs.Latex.Keys
import BookIndex.Proofs.Markup.Joined

namespace BookIndex.Latex

open Markup

variable {e : Char}

theorem guarded_path (raw : Text) : Guarded isCommandSeparator [e] (splitCommand [e] raw).1 := by
  unfold splitCommand
  split
  · rename_i path command h
    exact (exists_of_cutFrom_eq_some h).1
  · rename_i h
    exact guardedFrom_of_cutFrom_eq_none h

theorem guarded_of_mem_levels (he : PlainEscape e) {raw level : Text}
    (h : level ∈ (splitMarkup [e] raw).1) :
    Guarded isLevelSeparator [e] level ∧ Guarded isCommandSeparator [e] level := by
  obtain ⟨piece, hp, rfl⟩ := List.mem_map.1 h
  have hlevel := guarded_of_mem_pieces he.escapes_level hp
  have hcommand := Guarded.of_mem_pieces he.escapes_level (guarded_path raw) hp
  exact ⟨hlevel.trim he.escapes_blank, hcommand.trim he.escapes_blank⟩

theorem escapes_keyedLevel (he : PlainEscape e) (level : Text) (key : Option Text) :
    escapes [e] (keyedLevel level key).getLast? = escapes [e] level.getLast? := by
  cases key with
  | none => rfl
  | some key =>
    rw [keyedLevel, List.getLast?_append, List.getLast?_cons]
    cases level.getLast? with
    | none => exact escapes_singleton_of_ne he.ne_sort
    | some c => rfl

theorem map_escapes_keyedLevels (he : PlainEscape e) (levels : List Text)
    (keys : List (Option Text)) :
    (keyedLevels levels keys).map (fun p ↦ escapes [e] p.getLast?) =
      levels.map fun p ↦ escapes [e] p.getLast? := by
  induction levels generalizing keys with
  | nil => rfl
  | cons level levels ih =>
    cases keys with
    | nil => rfl
    | cons key keys => simp only [keyedLevels, List.map_cons, escapes_keyedLevel he, ih]

theorem forall_dropLast_iff (he : PlainEscape e) (levels : List Text) (keys : List (Option Text)) :
    (∀ p ∈ (keyedLevels levels keys).dropLast, escapes [e] p.getLast? = false) ↔
      ∀ level ∈ levels.dropLast, level.getLast? ≠ some e := by
  have hm := congrArg List.dropLast (map_escapes_keyedLevels he levels keys)
  rw [← List.map_dropLast, ← List.map_dropLast] at hm
  have hall := congrArg (∀ b ∈ ·, b = false) hm
  simp only [List.forall_mem_map, eq_iff_iff] at hall
  rw [hall]
  simp only [Bool.eq_false_iff, ne_eq, escapes_singleton_iff]

theorem escapes_last_iff (he : PlainEscape e) (levels : List Text) (keys : List (Option Text)) :
    escapes [e] ((keyedLevels levels keys).getLast?.bind List.getLast?) = false ↔
      ∀ level ∈ levels.getLast?, level.getLast? ≠ some e := by
  have hm := congrArg List.getLast? (map_escapes_keyedLevels he levels keys)
  rw [List.getLast?_map, List.getLast?_map] at hm
  cases hp : (keyedLevels levels keys).getLast? <;> cases hl : levels.getLast? <;>
    simp only [hp, hl, Option.map_none, Option.map_some, reduceCtorEq, Option.some_inj] at hm
  · simp
  · simp [hm, Bool.eq_false_iff, escapes_singleton_iff]

theorem splitCommand_escaped {s command : Text} (hs : Guarded isCommandSeparator [e] s)
    (hl : escapes [e] s.getLast? = true) :
    (splitCommand [e] (s ++ '|' :: command)).2 ≠ some command := by
  have hcut : cutFrom isCommandSeparator [e] none (s ++ '|' :: command) = _ :=
    cutFrom_append hs ('|' :: command)
  rw [Option.or_none, cutFrom, hl] at hcut
  unfold splitCommand cut?
  rw [hcut]
  intro h
  cases hr : cutFrom isCommandSeparator [e] (some '|') command with
  | none => simp [hr] at h
  | some r =>
    obtain ⟨-, c, -, hc⟩ := exists_of_cutFrom_eq_some (a := r.1) (b := r.2) hr
    simp only [hr, Bool.not_true, Bool.and_false, Bool.false_eq_true, ↓reduceIte,
      Option.map_some, Option.some_inj] at h
    have hlen := congrArg List.length hc
    rw [h] at hlen
    simp at hlen
    omega

def shownCommand : Option Text → Option Text
  | none | some [] => none
  | some command => some command

theorem splitMarkup_macroBody_iff (he : PlainEscape e) {levels : List Text}
    {keys : List (Option Text)} (hne : keyedLevels levels keys ≠ [])
    (hl : ∀ part ∈ keyedLevels levels keys, Guarded isLevelSeparator [e] part)
    (hc : ∀ part ∈ keyedLevels levels keys, Guarded isCommandSeparator [e] part)
    (command : Option Text) :
    splitMarkup [e] (macroBody levels keys command) =
        ((keyedLevels levels keys).map Text.trim, shownCommand command) ↔
      (∀ level ∈ levels.dropLast, level.getLast? ≠ some e) ∧
        (shownCommand command ≠ none → ∀ level ∈ levels.getLast?, level.getLast? ≠ some e) := by
  have hlevel : isLevelSeparator '!' = true := rfl
  have hbar : isCommandSeparator '!' = false := rfl
  have hsplit := split_intercalate_iff hlevel (he.escapes_level '!' rfl) hne hl
  have hpath := guarded_intercalate hbar hc
  have hlast := escapes_intercalate (he.escapes_level '!' rfl) (keyedLevels levels keys)
  have hcut := cut?_of_guarded hpath
  rw [← forall_dropLast_iff he levels keys, ← escapes_last_iff he levels keys, ← hsplit, ← hlast]
  cases command with
  | none => simp [macroBody, shownCommand, splitMarkup, splitCommand, hcut]
  | some command =>
    cases command with
    | nil => simp [macroBody, shownCommand, splitMarkup, splitCommand, hcut]
    | cons c command =>
      simp only [macroBody, shownCommand, splitMarkup, Prod.mk.injEq]
      cases hesc : escapes [e] (['!'].intercalate (keyedLevels levels keys)).getLast?
      · rw [splitCommand_append hpath hesc]
        simp
      · have hshorter : (splitCommand [e] (_ ++ '|' :: c :: command)).2 ≠ some (c :: command) :=
          splitCommand_escaped hpath hesc
        simp [hshorter]

theorem keyedLevels_ne_nil {levels : List Text} (hne : levels ≠ []) (keys : List (Option Text)) :
    keyedLevels levels keys ≠ [] := by
  cases levels with
  | nil => exact absurd rfl hne
  | cons level levels => cases keys <;> simp [keyedLevels]

/-- The argument of an index macro reads back as its levels behind their keys and its command, if and
only if the escape character ends no level before a separator; no key adds a separator. -/
theorem render_reparses_iff (s : Charset) (ascii : s.HoldsAscii) (e : Char) (he : PlainEscape e)
    (useIndices preview : Bool) (raw plain : Text) (index : Option Text) :
    let o : Options := ⟨(Codec.charset s).validator, [e], useIndices, preview, false⟩
    let levels := (splitMarkup [e] raw).1
    let command := shownCommand (splitMarkup [e] raw).2
    ∃ keys log body,
      sortKeys o levels (splitMarkup [e] plain).1 = .ok (keys, log) ∧
      render o raw plain index = .ok (indexMacro useIndices index ++ body ++ ['}'], log) ∧
      (splitMarkup [e] body = ((keyedLevels levels keys).map Text.trim, command) ↔
        (∀ level ∈ levels.dropLast, level.getLast? ≠ some e) ∧
          (command ≠ none → ∀ level ∈ levels.getLast?, level.getLast? ≠ some e)) ∧
      ∀ part ∈ keyedLevels levels keys,
        positions isLevelSeparator [e] part = [] ∧ positions isCommandSeparator [e] part = [] := by
  intro o levels command
  let plains := (splitMarkup [e] plain).1
  let keys := keysOf s preview [e] levels plains
  obtain ⟨log, hkeys⟩ : ∃ log, sortKeys o levels plains = .ok (keys, log) :=
    exists_sortKeys rfl levels plains
  have hl : ∀ part ∈ keyedLevels levels keys, Guarded isLevelSeparator [e] part :=
    guarded_keyedLevels ascii he (fun c hc ↦ .inl (eq_of_beq hc)) preview
      (fun _ h ↦ (guarded_of_mem_levels he h).1) (fun _ h ↦ (guarded_of_mem_levels he h).1)
  have hc : ∀ part ∈ keyedLevels levels keys, Guarded isCommandSeparator [e] part :=
    guarded_keyedLevels ascii he (fun c hc ↦ .inr (eq_of_beq hc)) preview
      (fun _ h ↦ (guarded_of_mem_levels he h).2) (fun _ h ↦ (guarded_of_mem_levels he h).2)
  have hne : levels ≠ [] := by simp [levels, splitMarkup, split, pieces]
  refine ⟨keys, log, macroBody levels keys (splitMarkup [e] raw).2, hkeys, ?_,
    splitMarkup_macroBody_iff he (keyedLevels_ne_nil hne keys) hl hc _, fun part hp ↦ ?_⟩
  · have hr : render o raw plain index = (sortKeys o levels plains).bind fun r ↦
        .ok (renderLevels useIndices index levels r.1 (splitMarkup [e] raw).2, r.2) := rfl
    rw [hr, hkeys]
    rfl
  · exact ⟨(positions_eq_nil_iff part).2 (hl part hp), (positions_eq_nil_iff part).2 (hc part hp)⟩

theorem render_reparses_accents :
    Charset.ascii.HoldsAscii ∧ PlainEscape '"' ∧
    ∃ body log,
      render ⟨(Codec.charset .ascii).validator, ['"'], false, false, false⟩
        "\\emph\x7bÉlan\x7d!a\"!b|see\x7bB!C\x7d".toList "Élan!a\"!b".toList none =
          .ok ("\\index\x7b".toList ++ body ++ ['}'], log) ∧
      splitMarkup ['"'] body =
        (["'\x7bE\x7dlan@\\emph\x7bÉlan\x7d".toList, "a\"!b".toList],
          some "see\x7bB!C\x7d".toList) := by
  have ascii : Charset.ascii.HoldsAscii := Charset.holdsAscii_of_mem_named (by simp [Charset.named])
  have he : PlainEscape '"' :=
    ⟨by decide, by decide, by decide, by decide, by decide, by decide⟩
  obtain ⟨keys, log, body, hkeys, hr, hiff, -⟩ := render_reparses_iff .ascii ascii '"' he false false
    "\\emph\x7bÉlan\x7d!a\"!b|see\x7bB!C\x7d".toList "Élan!a\"!b".toList none
  have hk : keys = [some "'\x7bE\x7dlan".toList, none] := by
    have h := congrArg (fun r ↦ r.map Prod.fst) hkeys
    exact (Except.ok.inj h).symm
  subst hk
  exact ⟨ascii, he, body, log, hr, hiff.2 (by decide)⟩

end BookIndex.Latex
