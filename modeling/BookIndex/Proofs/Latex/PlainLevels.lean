import BookIndex.Proofs.Latex.Keys
import BookIndex.Proofs.Markup.Blanks
import BookIndex.Proofs.Markup.Joined
import BookIndex.Proofs.Tex.Plain

namespace BookIndex.Latex

open Markup Tex

theorem not_separator_of_guarded {sep : Char → Bool} {e : Char} {s : Text}
    (h : Guarded sep [e] s) (he : e ∉ s) : ∀ c ∈ s, sep c = false := by
  intro c hc
  obtain ⟨a, t, rfl⟩ := List.append_of_mem hc
  obtain ⟨-, hguard, -⟩ := (guardedFrom_append none a (c :: t)).1 h
  rw [Bool.eq_false_iff]
  intro hsep
  have hlast := hguard hsep
  rw [Option.or_none, escapes_singleton_iff] at hlast
  exact he (List.mem_append_left _ (List.mem_of_getLast? hlast))

theorem text_intercalate {c : Char} (hc : isSign c = true) {parts : List Text}
    (hparts : ∀ p ∈ parts, '[' ∉ p) :
    text ([c].intercalate parts) = [c].intercalate (parts.map text) := by
  induction parts with
  | nil => rfl
  | cons p parts ih =>
    cases parts with
    | nil => rw [List.map_singleton, List.intercalate_singleton, List.intercalate_singleton]
    | cons q parts =>
      have hrest := ih fun r hr ↦ hparts r (List.mem_cons_of_mem p hr)
      rw [List.map_cons, List.map_cons, List.intercalate_cons_cons, List.intercalate_cons_cons,
        List.append_assoc, List.append_assoc, List.singleton_append, List.singleton_append,
        text_append_cons hc (hparts p List.mem_cons_self), hrest, List.map_cons]

theorem not_mem_of_mem_pieces {sep : Char → Bool} {esc s p : Text} {c : Char}
    (hp : p ∈ pieces sep esc s) (hc : c ∉ s) : c ∉ p := by
  obtain ⟨a, b, rfl, -⟩ := exists_of_mem_pieces hp
  intro h
  exact hc (by simp [h])

section

variable {s : Text} (hbracket : '[' ∉ s) (hquote : '"' ∉ s)

include hbracket hquote

theorem pieces_text : pieces isLevelSeparator defaultEscape (text s) =
    (pieces isLevelSeparator defaultEscape s).map text := by
  have hlevel : ∀ c, isLevelSeparator c = true → escapes defaultEscape (some c) = false :=
    plainEscape_default.escapes_level
  have hunquoted : ∀ p ∈ (pieces isLevelSeparator defaultEscape s).map text,
      '"' ∉ p ∧ Guarded isLevelSeparator defaultEscape p := by
    intro p hp
    obtain ⟨q, hq, rfl⟩ := List.mem_map.1 hp
    have hmem := not_mem_of_mem_pieces hq hquote
    have hfree := not_separator_of_guarded (guarded_of_mem_pieces hlevel hq) hmem
    constructor
    · intro h
      rcases mem_text h with h | h
      · exact hmem h
      · cases h
    · apply guardedFrom_of_no_separator
      intro c hc
      rcases mem_text hc with hc | rfl
      · exact hfree c hc
      · rfl
  have hwhole : ['!'].intercalate (pieces isLevelSeparator defaultEscape s) = s :=
    intercalate_pieces (fun d hd ↦ eq_of_beq hd) s
  have hjoined : text s =
      ['!'].intercalate ((pieces isLevelSeparator defaultEscape s).map text) := by
    rw [← text_intercalate rfl fun p hp ↦ not_mem_of_mem_pieces hp hbracket, hwhole]
  rw [hjoined]
  apply pieces_intercalate rfl rfl
  · exact List.cons_ne_nil _ _
  · exact fun p hp ↦ (hunquoted p hp).2
  · intro p hp
    rw [Bool.eq_false_iff, Ne, defaultEscape, escapes_singleton_iff]
    intro hlast
    exact (hunquoted p (List.mem_of_mem_dropLast hp)).1 (List.mem_of_getLast? hlast)

theorem split_text : split isLevelSeparator defaultEscape (text s) =
    (split isLevelSeparator defaultEscape s).map plain := by
  rw [split, split, pieces_text hbracket hquote, List.map_map, List.map_map]
  apply List.map_congr_left
  intro p hp
  exact (plain_trim (not_mem_of_mem_pieces hp hbracket)).symm

end

theorem not_mem_text {s : Text} {c : Char} (hc : c ≠ ' ') (hs : c ∉ s) : c ∉ text s :=
  fun h ↦ (mem_text h).elim hs hc

theorem level_not_blank (c : Char) (hc : Text.isBlank c = true) : isLevelSeparator c = false :=
  Text.beq_eq_false_of_isBlank (by decide) hc

theorem split_dropWhile (s : Text) : split isLevelSeparator defaultEscape
    (s.dropWhile Text.isBlank) = split isLevelSeparator defaultEscape s := by
  have hblank : ∀ c ∈ s.takeWhile Text.isBlank, Text.isBlank c = true :=
    fun c hc ↦ List.mem_takeWhile_imp hc
  have hsplit := split_blanks_append level_not_blank hblank plainEscape_default.escapes_blank
    (s.dropWhile Text.isBlank)
  rw [List.takeWhile_append_dropWhile] at hsplit
  exact hsplit.symm

theorem split_trim (s : Text) : split isLevelSeparator defaultEscape (Text.trim s) =
    split isLevelSeparator defaultEscape s := by
  obtain ⟨a, b, hs, ha, hb⟩ := Text.exists_trim s
  conv_rhs => rw [hs]
  rw [split_append_blanks level_not_blank hb]
  exact (split_blanks_append level_not_blank ha plainEscape_default.escapes_blank _).symm

theorem guarded_of_no_bar {s : Text} (hs : '|' ∉ s) :
    Guarded isCommandSeparator defaultEscape s := by
  apply guardedFrom_of_no_separator
  intro c hc
  rw [isCommandSeparator, beq_eq_false_iff_ne]
  exact fun h ↦ hs (h ▸ hc)

theorem splitCommand_of_no_bar {s : Text} (hs : '|' ∉ s) :
    splitCommand defaultEscape s = (s, none) := by
  rw [splitCommand, cut?_of_guarded (guarded_of_no_bar hs)]

theorem splitCommand_bar {s : Text} (hs : '|' ∉ s) (hquote : '"' ∉ s) (command : Text) :
    splitCommand defaultEscape (s ++ '|' :: command) = (s, some command) := by
  apply splitCommand_append (guarded_of_no_bar hs)
  · rw [Bool.eq_false_iff, Ne, escapes_singleton_iff]
    exact fun h ↦ hquote (List.mem_of_getLast? h)

theorem split_path_plain {s : Text} (hbracket : '[' ∉ s) (hquote : '"' ∉ s) :
    split isLevelSeparator defaultEscape (splitCommand defaultEscape (plain s)).1 =
        (split isLevelSeparator defaultEscape (splitCommand defaultEscape s).1).map plain ∧
      (splitCommand defaultEscape (plain s)).2.isSome =
        (splitCommand defaultEscape s).2.isSome := by
  by_cases hbar : '|' ∈ s
  · obtain ⟨a, b, rfl, ha⟩ := List.eq_append_cons_of_mem hbar
    rw [List.mem_append, not_or] at hbracket hquote
    have hplain : plain (a ++ '|' :: b) =
        (text a).dropWhile Text.isBlank ++ '|' :: (text b).rdropWhile Text.isBlank := by
      calc
        plain (a ++ '|' :: b) =
            ((text (a ++ '|' :: b)).dropWhile Text.isBlank).rdropWhile Text.isBlank := rfl
        _ = _ := by
          rw [text_append_cons rfl hbracket.1, Text.dropWhile_append_cons (by decide),
            Text.rdropWhile_append_cons (by decide)]
    have hfront {c : Char} (hc : c ∉ text a) : c ∉ (text a).dropWhile Text.isBlank :=
      fun h ↦ hc ((List.dropWhile_sublist _).mem h)
    rw [hplain, splitCommand_bar ha hquote.1,
      splitCommand_bar (hfront (not_mem_text (by decide) ha))
        (hfront (not_mem_text (by decide) hquote.1)), split_dropWhile,
      split_text hbracket.1 hquote.1]
    exact ⟨rfl, rfl⟩
  · have hplain : '|' ∉ plain s := by
      intro h
      obtain ⟨x, y, htext, -⟩ := Text.exists_trim (text s)
      apply not_mem_text (by decide) hbar
      rw [htext]
      exact List.mem_append_left _ (List.mem_append_right _ h)
    have hsplit : split isLevelSeparator defaultEscape (plain s) =
        split isLevelSeparator defaultEscape (text s) := split_trim (text s)
    rw [splitCommand_of_no_bar hbar, splitCommand_of_no_bar hplain, hsplit,
      split_text hbracket hquote]
    exact ⟨rfl, rfl⟩

/-- Without optional arguments, the plain text of an entry has the same signs in the same order.
Without quotes too, it has for each level of the entry the plain text of that level, and a command
exactly if the entry has one, so that each level that needs a key gets it from its plain text. -/
theorem plain_keeps_structure {s : Text} (hbracket : '[' ∉ s) :
    (plain s).filter isSign = s.filter isSign ∧
    ('"' ∉ s →
      (splitMarkup defaultEscape (plain s)).1 = (splitMarkup defaultEscape s).1.map plain ∧
      (splitMarkup defaultEscape (plain s)).2.isSome =
        (splitMarkup defaultEscape s).2.isSome ∧
      ∀ (o : Options) (index : Option Text), o.escape = defaultEscape → o.verbatim = false →
        render o s (plain s) index =
          (sortKeys o (splitMarkup defaultEscape s).1
            ((splitMarkup defaultEscape s).1.map plain)).bind fun r ↦
              .ok (renderLevels o.useIndices index (splitMarkup defaultEscape s).1 r.1
                (splitMarkup defaultEscape s).2, r.2)) := by
  refine ⟨filter_plain hbracket, fun hquote ↦ ?_⟩
  obtain ⟨hlevels, hcommand⟩ := split_path_plain hbracket hquote
  refine ⟨hlevels, hcommand, fun o index hescape hverbatim ↦ ?_⟩
  have hplain : (splitMarkup defaultEscape (plain s)).1 =
      (splitMarkup defaultEscape s).1.map plain := hlevels
  rw [render_eq_bind hverbatim, hescape, hplain]

/-- An entry with commands, a formula, an escaped percent sign and a tie. -/
def styledEntry : Text := "\\emph\x7ba\tb\x7d! ~\\LyX*\\%c$x$|see\x7b\\textbf d\x7d".toList

theorem plain_keeps_structure_styled : '[' ∉ styledEntry ∧ '"' ∉ styledEntry ∧
    (plain styledEntry).filter isSign = styledEntry.filter isSign ∧
    (splitMarkup defaultEscape (plain styledEntry)).1 =
      (splitMarkup defaultEscape styledEntry).1.map plain ∧
    (splitMarkup defaultEscape styledEntry).1.map plain = ["a b".toList, "%cx".toList] ∧
    (splitMarkup defaultEscape (plain styledEntry)).2.isSome =
      (splitMarkup defaultEscape styledEntry).2.isSome := by
  have hbracket : '[' ∉ styledEntry := by decide
  have hquote : '"' ∉ styledEntry := by decide
  obtain ⟨hsigns, hlevels⟩ := plain_keeps_structure hbracket
  obtain ⟨hpaired, hcommand, -⟩ := hlevels hquote
  exact ⟨hbracket, hquote, hsigns, hpaired, by decide, hcommand⟩

end BookIndex.Latex
