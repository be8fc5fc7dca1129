import BookIndex.DocBook.Render
import BookIndex.Proofs.Markup.Commands

namespace BookIndex.DocBook

open Markup

section

variable {esc : Text} (hesc : ∀ c, Text.isBlank c = true → escapes esc (some c) = false)

include hesc

theorem splitCommand_trim (raw : Text) : ∃ a b, (∀ c ∈ a, Text.isBlank c = true) ∧
    (∀ c ∈ b, Text.isBlank c = true) ∧
    splitCommand esc raw = match splitCommand esc (Text.trim raw) with
      | (path, some command) => (a ++ path, some (command ++ b))
      | (path, none) => (a ++ path ++ b, none) := by
  obtain ⟨a, b, hraw, ha, hb⟩ := Text.exists_trim raw
  have hsep : ∀ c, Text.isBlank c = true → isCommandSeparator c = false :=
    fun _ ↦ Text.beq_eq_false_of_isBlank (by decide)
  have hcut : cut? isCommandSeparator esc raw =
      (cut? isCommandSeparator esc (Text.trim raw)).map fun r ↦ (a ++ r.1, r.2 ++ b) := by
    conv_lhs => rw [hraw]
    rw [cut?_append_blanks hsep hb, cut?_blanks_append hsep ha hesc, Option.map_map]
    rfl
  refine ⟨a, b, ha, hb, ?_⟩
  simp only [splitCommand, hcut]
  cases cut? isCommandSeparator esc (Text.trim raw) with
  | none => exact congrArg (·, none) hraw
  | some r => rfl

theorem split_path_trim {sep : Char → Bool} (hsep : ∀ c, Text.isBlank c = true → sep c = false)
    (raw : Text) : split sep esc (splitCommand esc (Text.trim raw)).1 =
      split sep esc (splitCommand esc raw).1 := by
  obtain ⟨a, b, ha, hb, hraw⟩ := splitCommand_trim hesc raw
  rw [hraw]
  obtain ⟨path, command⟩ := splitCommand esc (Text.trim raw)
  cases command with
  | none => rw [split_append_blanks hsep hb, split_blanks_append hsep ha hesc]
  | some command => rw [split_blanks_append hsep ha hesc]

theorem bare_command_trim (raw : Text) :
    (Command.ofText? (splitCommand esc (Text.trim raw)).2).bare =
      (Command.ofText? (splitCommand esc raw).2).bare := by
  obtain ⟨a, b, -, hb, hraw⟩ := splitCommand_trim hesc raw
  rw [hraw]
  obtain ⟨path, command⟩ := splitCommand esc (Text.trim raw)
  cases command with
  | none => rfl
  | some command => exact (Command.bare_ofText_append_blanks hb command).symm

theorem parse_trim_of_unkeyed {raw : Text}
    (hkey : cut? isSortSeparator esc (splitCommand esc raw).1 = none) :
    parse esc (Text.trim raw) =
      { levels := splitNonempty isLevelSeparator esc (splitCommand esc (Text.trim raw)).1
        commandText := (splitCommand esc (Text.trim raw)).2
        command := .ofText? (splitCommand esc (Text.trim raw)).2
        sortKey := none
        position := none } := by
  have hsep : ∀ c, Text.isBlank c = true → isSortSeparator c = false :=
    fun _ ↦ Text.beq_eq_false_of_isBlank (by decide)
  have hguard : Guarded isSortSeparator esc (splitCommand esc raw).1 :=
    guardedFrom_of_cutFrom_eq_none hkey
  have hsplit : splitNonempty isSortSeparator esc (splitCommand esc (Text.trim raw)).1 =
      if (Text.trim (splitCommand esc raw).1).isEmpty then []
      else [Text.trim (splitCommand esc raw).1] := by
    rw [splitNonempty, split_path_trim hesc hsep, split, pieces_of_guarded hguard,
      List.map_singleton, List.filter_singleton]
    cases (Text.trim (splitCommand esc raw).1).isEmpty <;> rfl
  simp only [parse, hsplit]
  split
  · rename_i key terms heq
    split at heq
    · cases heq
    · cases heq
  · rfl

end

theorem not_escapes_of_isBlank {esc : Text} (h : ∀ c, esc = [c] → Text.isBlank c = false) (c : Char)
    (hc : Text.isBlank c = true) : escapes esc (some c) = false := by
  rw [Bool.eq_false_iff]
  intro hesc
  rw [h c ((Text.isChar_iff esc c).1 hesc)] at hc
  cases hc

/-- Both readings of an entry find the same kind of command with the same targets, and the same
levels but for the blank ones if the term path has no sort separator. -/
theorem parse_trim_agrees {esc : Text} (h : ∀ c, esc = [c] → Text.isBlank c = false)
    (raw : Text) (position : Option Text) :
    let entry := parse esc (Text.trim raw)
    let whole := Entry.ofMarkup esc raw position
    entry.command.kind = whole.command.kind ∧ entry.command.targets = whole.command.targets ∧
      entry.command.hasMoreTargets = whole.command.hasMoreTargets ∧
      (cut? isSortSeparator esc (splitCommand esc raw).1 = none →
        entry.levels = whole.levels.filter (!·.isEmpty) ∧ entry.sortKey = none) := by
  intro entry whole
  have hesc := not_escapes_of_isBlank h
  have hbare : entry.command.bare = whole.command.bare := bare_command_trim hesc raw
  refine ⟨?_, ?_, ?_, fun hkey ↦ ?_⟩
  · rw [← Command.kind_bare, hbare, Command.kind_bare]
  · rw [← Command.targets_bare, hbare, Command.targets_bare]
  · rw [← Command.hasMoreTargets_bare, hbare, Command.hasMoreTargets_bare]
  · have hentry : entry = _ := parse_trim_of_unkeyed hesc hkey
    have hsep : ∀ c, Text.isBlank c = true → isLevelSeparator c = false :=
      fun _ ↦ Text.beq_eq_false_of_isBlank (by decide)
    have hlevels : split isLevelSeparator esc (splitCommand esc (Text.trim raw)).1 =
        whole.levels := split_path_trim hesc hsep raw
    rw [hentry, splitNonempty, hlevels]
    exact ⟨rfl, rfl⟩

/-- A reference that is not closed, with blanks around the entry and inside of it. -/
def spaced : Text := "\t A ! !b\"@c |see\x7bD , E \u00A0".toList

theorem parse_trim_agrees_spaced :
    (∀ c, ['"'] = [c] → Text.isBlank c = false) ∧
    cut? isSortSeparator ['"'] (splitCommand ['"'] spaced).1 = none ∧
    (parse ['"'] (Text.trim spaced)).command.kind = .see ∧
    (parse ['"'] (Text.trim spaced)).levels = ["A".toList, "b\"@c".toList] := by
  have h : ∀ c, ['"'] = [c] → Text.isBlank c = false := by
    intro c hc
    obtain rfl : '"' = c := List.head_eq_of_cons_eq hc
    decide
  have hkey : cut? isSortSeparator ['"'] (splitCommand ['"'] spaced).1 = none := by decide
  obtain ⟨hkind, -, -, hlevels⟩ := parse_trim_agrees h spaced none
  refine ⟨h, hkey, ?_, ?_⟩
  · rw [hkind]
    decide
  · rw [(hlevels hkey).1]
    decide

end BookIndex.DocBook
