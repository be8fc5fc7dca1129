import BookIndex.Proofs.Markup.Escape
import BookIndex.Proofs.Text.Cuts
import BookIndex.Xhtml.Item

namespace BookIndex

namespace Markup

theorem Heading.map_ofLevels {f : Text → Text} (hf : f [] = []) (levels : List Text) :
    (ofLevels levels).map f = ofLevels (levels.map f) := by
  rcases levels with _ | ⟨a, _ | ⟨b, _ | ⟨c, levels⟩⟩⟩ <;> simp [ofLevels, map, hf]

theorem Heading.ofLevels_eq_iff {ls us : List Text} (h : ls.length + us.length ≤ 2) (x y : Text) :
    ofLevels (ls ++ y :: us) = ofLevels (ls ++ [x]) ↔ y = x ∧ ∀ l ∈ us, l = [] := by
  rcases ls with _ | ⟨a, _ | ⟨b, _ | ⟨c, ls⟩⟩⟩ <;>
    rcases us with _ | ⟨a', _ | ⟨b', _ | ⟨c', us⟩⟩⟩ <;>
    simp_all [ofLevels] <;> omega

end Markup

namespace Xhtml

open Markup

/-- The level separator of an index that is given none. -/
def defaultSeparator : Text := " ! ".toList

def side (forOutput : Bool) : Text → Text → Text := if forOutput then displaySide else sortSide

/-- The heading that an entry gives, with the side of each level that is shown or the one that is
sorted. -/
def extract (separator esc : Text) (forOutput : Bool) (entry : Text) : Except RowError Heading :=
  (subentries separator entry).map (Heading.map (side forOutput esc))

/-- The levels of an entry, at most one more than `n`. -/
def levels (separator : Text) (n : ℕ) (entry : Text) : List Text :=
  (Text.cuts separator n entry).map Text.trim

def hasKey (esc level : Text) : Bool := (cut? isSortSeparator esc level).isSome

theorem ofRow_eq_extract {α : Type} (separator esc : Text) (row : Row α) :
    Item.ofRow separator esc row = do
      let key ← extract separator esc false row.markup
      let markup ← extract separator esc true row.markup
      let plain ← extract separator esc true row.plain
      return ⟨key, plain.orElse markup, row.position⟩ := by
  unfold Item.ofRow extract
  cases subentries separator row.markup with
  | error e => rfl
  | ok markup => cases subentries separator row.plain <;> rfl

theorem subentries_eq {separator : Text} (hs : separator ≠ []) (entry : Text) :
    subentries separator entry = .ok (.ofLevels (levels separator 2 entry)) := by
  unfold subentries levels
  cases entry with
  | nil => simp [Text.cuts, Text.cut?, hs, Heading.ofLevels]
  | cons c entry =>
    rw [if_neg (by simp), if_neg (by simpa using hs), Text.cuts]
    cases Text.cut? separator (c :: entry) with
    | none => rfl
    | some r =>
      simp only [Text.cuts]
      cases Text.cut? separator r.2 <;> rfl

theorem side_nil (forOutput : Bool) (esc : Text) : side forOutput esc [] = [] := by
  cases forOutput <;> rfl

theorem extract_eq {separator : Text} (hs : separator ≠ []) (esc : Text) (forOutput : Bool)
    (entry : Text) :
    extract separator esc forOutput entry =
      .ok (.ofLevels ((levels separator 2 entry).map (side forOutput esc))) := by
  rw [extract, subentries_eq hs, ← Heading.map_ofLevels (side_nil forOutput esc)]
  rfl

section

variable {e : Char} (he : PlainEscape e)

theorem withoutCommand_of_guarded {s : Text} (hs : Guarded isCommandSeparator [e] s) :
    withoutCommand [e] s = s := by
  rw [withoutCommand, splitCommand, cut?_of_guarded hs]

theorem withoutCommand_append {s : Text} (hs : Guarded isCommandSeparator [e] s)
    (hl : escapes [e] s.getLast? = false) (t : Text) : withoutCommand [e] (s ++ '|' :: t) = s := by
  rw [withoutCommand, splitCommand_append hs hl]

theorem cut?_sort_append {s : Text} (h : hasKey [e] s = false) (t : Text) :
    cut? isSortSeparator [e] (s ++ '|' :: t) =
      (cutFrom isSortSeparator [e] (some '|') t).map fun r ↦ (s ++ '|' :: r.1, r.2) := by
  have hcut : cut? isSortSeparator [e] s = none := by simpa [hasKey] using h
  have hg : Guarded isSortSeparator [e] s := guardedFrom_of_cutFrom_eq_none hcut
  rw [cut?, cutFrom_append hg, cutFrom]
  simp [isSortSeparator, Function.comp_def]

theorem sortSide_append {level : Text} (hc : Guarded isCommandSeparator [e] level)
    (hl : escapes [e] level.getLast? = false) (t : Text) :
    sortSide [e] (level ++ '|' :: t) = sortSide [e] level := by
  unfold sortSide
  cases hk : cut? isSortSeparator [e] level with
  | some r => rw [cut?, cutFrom_append_of_eq_some hk]
  | none =>
    rw [cut?_sort_append (by simp [hasKey, hk])]
    cases cutFrom isSortSeparator [e] (some '|') t with
    | none => simp only [Option.map_none, withoutCommand_append hc hl, withoutCommand_of_guarded hc]
    | some r =>
      simp only [Option.map_some, withoutCommand_append hc hl, withoutCommand_of_guarded hc]

include he

theorem displaySide_append_of_hasKey {level : Text} (hk : hasKey [e] level = true)
    (hc : Guarded isCommandSeparator [e] level) (hl : escapes [e] level.getLast? = false)
    (t : Text) : displaySide [e] (level ++ '|' :: t) = displaySide [e] level := by
  obtain ⟨⟨key, display⟩, hcut⟩ := Option.isSome_iff_exists.1 hk
  obtain ⟨-, c, hsort, rfl⟩ := exists_of_cutFrom_eq_some hcut
  obtain rfl : c = '@' := eq_of_beq hsort
  have hg : Guarded isCommandSeparator [e] display := by
    refine Guarded.middle (a := key ++ ['@']) (b := []) (by simpa using hc) ?_
    simpa using escapes_singleton_of_ne he.ne_sort
  have hlast : escapes [e] display.getLast? = false := by
    cases hd : display.getLast? with
    | none => rfl
    | some d => simpa [List.getLast?_cons, hd] using hl
  unfold displaySide
  rw [hcut, cut?, cutFrom_append_of_eq_some hcut]
  simp only [withoutCommand_append hg hlast, withoutCommand_of_guarded hg]

omit he in
theorem displaySide_append_of_not_hasKey {level : Text} (hk : hasKey [e] level = false)
    (hc : Guarded isCommandSeparator [e] level) (hl : escapes [e] level.getLast? = false)
    (t : Text) :
    displaySide [e] (level ++ '|' :: t) =
      if hasKey [e] ('|' :: t) then displaySide [e] ('|' :: t) else level := by
  have hbar : cut? isSortSeparator [e] ('|' :: t) = _ := cut?_sort_append (s := []) rfl t
  rw [hasKey, displaySide, cut?_sort_append hk, displaySide, hbar]
  cases cutFrom isSortSeparator [e] (some '|') t with
  | none => simp [withoutCommand_append hc hl]
  | some r => simp

theorem displaySide_append_iff {level : Text} (hc : Guarded isCommandSeparator [e] level)
    (hl : escapes [e] level.getLast? = false) (t : Text) :
    displaySide [e] (level ++ '|' :: t) = displaySide [e] level ↔
      (hasKey [e] level = false → hasKey [e] ('|' :: t) = true →
        displaySide [e] ('|' :: t) = level) := by
  cases hk : hasKey [e] level with
  | true => simp [displaySide_append_of_hasKey he hk hc hl]
  | false =>
    have hcut : cut? isSortSeparator [e] level = none := by simpa [hasKey] using hk
    have hlevel : displaySide [e] level = level := by
      rw [displaySide, hcut, withoutCommand_of_guarded hc]
    rw [displaySide_append_of_not_hasKey hk hc hl, hlevel]
    cases hasKey [e] ('|' :: t) <;> simp

end

/-- The levels of a command with its bar, in an entry with a term path before it. -/
def commandLevels (path command : Text) : List Text :=
  levels defaultSeparator (3 - (levels defaultSeparator 2 path).length) ('|' :: command)

theorem ends_of_cuts {path x : Text} {ls : List Text}
    (last : ∀ c ∈ path.getLast?, Text.isBlank c = false ∧ c ≠ '"')
    (h : Text.cuts defaultSeparator 2 path = ls ++ [x]) :
    ∀ c ∈ x.getLast?, Text.isBlank c = false ∧ c ≠ '"' := by
  intro c hc
  obtain ⟨a, hpath, -⟩ := Text.exists_of_cuts (by decide) h
  apply last
  rw [hpath, List.getLast?_append, Option.mem_def.1 hc]
  rfl

theorem guarded_of_cuts {path x : Text} {ls : List Text}
    (bars : Guarded isCommandSeparator defaultEscape path)
    (h : Text.cuts defaultSeparator 2 path = ls ++ [x]) :
    Guarded isCommandSeparator defaultEscape (Text.trim x) := by
  obtain ⟨a, hpath, ha⟩ := Text.exists_of_cuts (by decide) h
  have hx : Guarded isCommandSeparator defaultEscape x := by
    refine Guarded.middle (a := a) (b := []) (by simpa [← hpath] using bars) ?_
    cases hl : a.getLast? with
    | none => rfl
    | some c =>
      apply escapes_singleton_of_ne
      rintro rfl
      exact absurd (ha _ hl) (by decide)
  exact hx.trim plainEscape_default.escapes_blank

theorem levels_append_command {path : Text} (bars : Guarded isCommandSeparator defaultEscape path)
    (last : ∀ c ∈ path.getLast?, Text.isBlank c = false ∧ c ≠ '"') (command : Text) :
    ∃ ls level t us,
      levels defaultSeparator 2 path = ls ++ [level] ∧
      commandLevels path command = ('|' :: t) :: us ∧
      levels defaultSeparator 2 (path ++ '|' :: command) = ls ++ (level ++ '|' :: t) :: us ∧
      ls.length + us.length ≤ 2 ∧
      Guarded isCommandSeparator defaultEscape level ∧
      escapes defaultEscape level.getLast? = false := by
  have hs : defaultSeparator ≠ [] := by decide
  have hd : '|' ∉ defaultSeparator := by decide
  have hbar : Text.isBlank '|' = false := by decide
  obtain ⟨ls, x, hx⟩ : ∃ ls x, Text.cuts defaultSeparator 2 path = ls ++ [x] :=
    ⟨_, _, (List.dropLast_append_getLast (Text.cuts_ne_nil defaultSeparator 2 path)).symm⟩
  obtain ⟨u, us, hu⟩ := Text.exists_cuts_cons hs hd (2 - ls.length) command
  have hall := Text.cuts_append_cons hs hd hx hu
  have hends := ends_of_cuts last hx
  have hblank : ∀ c ∈ x.getLast?, Text.isBlank c = false := fun c hc ↦ (hends c hc).1
  have hlevels : levels defaultSeparator 2 path = ls.map Text.trim ++ [Text.trim x] := by
    rw [levels, hx, List.map_append]
    rfl
  refine ⟨ls.map Text.trim, Text.trim x, u.rdropWhile Text.isBlank, us.map Text.trim, hlevels,
    ?_, ?_, ?_, guarded_of_cuts bars hx, ?_⟩
  · have hlen : 3 - (levels defaultSeparator 2 path).length = 2 - ls.length := by
      rw [hlevels]
      simp
    rw [commandLevels, hlen, levels, hu, List.map_cons,
      ← List.nil_append ('|' :: u), Text.trim_append_cons hbar (by simp)]
    rfl
  · rw [levels, hall, List.map_append, List.map_cons, Text.trim_append_cons hbar hblank]
  · have hlen := Text.length_cuts_le defaultSeparator 2 path
    have hlen' := Text.length_cuts_le defaultSeparator (2 - ls.length) ('|' :: command)
    rw [hx, List.length_append, List.length_singleton] at hlen
    rw [hu, List.length_cons] at hlen'
    rw [List.length_map, List.length_map]
    omega
  · cases hl : (Text.trim x).getLast? with
    | none => rfl
    | some c =>
      have hc := Text.mem_getLast?_of_trim hblank hl
      exact escapes_singleton_of_ne (hends c hc).2.symm

/-- A command keeps the heading of its term path exactly if the levels that it adds have an empty
side and, for the heading that is shown, if the command has no sort key in the place of one that the
last level lacks. -/
theorem extract_command_iff (forOutput : Bool) {path : Text}
    (bars : Guarded isCommandSeparator defaultEscape path)
    (last : ∀ c ∈ path.getLast?, Text.isBlank c = false ∧ c ≠ '"') (command : Text) :
    let level := (levels defaultSeparator 2 path).getLastD []
    let first := (commandLevels path command).headD []
    ∃ heading, extract defaultSeparator defaultEscape forOutput path = .ok heading ∧
      (extract defaultSeparator defaultEscape forOutput (path ++ '|' :: command) = .ok heading ↔
        (forOutput = true → hasKey defaultEscape level = false → hasKey defaultEscape first = true →
          displaySide defaultEscape first = level) ∧
        ∀ l ∈ (commandLevels path command).tail, side forOutput defaultEscape l = []) := by
  intro level first
  have hs : defaultSeparator ≠ [] := by decide
  obtain ⟨ls, x, t, us, hpath, hcommand, hall, hlen, hbars, hlast⟩ :=
    levels_append_command bars last command
  have hlevel : level = x := by
    simp only [level, hpath]
    simp
  have hfirst : first = '|' :: t := by simp only [first, hcommand, List.headD_cons]
  refine ⟨_, extract_eq hs defaultEscape forOutput path, ?_⟩
  rw [extract_eq hs, hall, hpath, hcommand, hlevel, hfirst, Except.ok.injEq, List.map_append,
    List.map_append, List.map_cons, List.map_singleton, List.tail_cons,
    Heading.ofLevels_eq_iff (by simpa using hlen), List.forall_mem_map]
  refine and_congr ?_ Iff.rfl
  cases forOutput with
  | false => exact iff_of_true (sortSide_append hbars hlast t) (by simp)
  | true =>
    exact (displaySide_append_iff plainEscape_default hbars hlast t).trans
      ⟨fun h _ ↦ h, fun h ↦ h rfl⟩

theorem extract_command_iff_keyed :
    Guarded isCommandSeparator defaultEscape "a ! beta@B".toList ∧
    (∀ c ∈ "a ! beta@B".toList.getLast?, Text.isBlank c = false ∧ c ≠ '"') ∧
    extract defaultSeparator defaultEscape true "a ! beta@B|see\x7bx@y\x7d".toList =
      .ok ⟨"a".toList, "B".toList, []⟩ := by
  have bars : Guarded isCommandSeparator defaultEscape "a ! beta@B".toList :=
    (positions_eq_nil_iff _).1 (by decide)
  have last : ∀ c ∈ "a ! beta@B".toList.getLast?, Text.isBlank c = false ∧ c ≠ '"' := by
    intro c hc
    obtain rfl : 'B' = c := Option.some.inj hc
    decide
  obtain ⟨heading, hpath, hiff⟩ := extract_command_iff true bars last "see\x7bx@y\x7d".toList
  have hheading : heading = ⟨"a".toList, "B".toList, []⟩ := (Except.ok.inj hpath).symm
  subst hheading
  exact ⟨bars, last, hiff.2 ⟨by decide, by decide⟩⟩

/-- A sort separator in a command puts a part of it in the place of the term, and a level separator
adds a level. -/
theorem extract_of_command :
    Guarded isCommandSeparator defaultEscape "Term".toList ∧
    (∀ c ∈ "Term".toList.getLast?, Text.isBlank c = false ∧ c ≠ '"') ∧
    extract defaultSeparator defaultEscape true "Term".toList = .ok ⟨"Term".toList, [], []⟩ ∧
    extract defaultSeparator defaultEscape true "Term|see\x7ba@b\x7d".toList =
      .ok ⟨"b\x7d".toList, [], []⟩ ∧
    extract defaultSeparator defaultEscape false "Term".toList = .ok ⟨"Term".toList, [], []⟩ ∧
    extract defaultSeparator defaultEscape false "Term|see\x7ba ! b\x7d".toList =
      .ok ⟨"Term".toList, "b\x7d".toList, []⟩ := by
  refine ⟨(positions_eq_nil_iff _).1 (by decide), ?_, by decide, by decide, by decide, by decide⟩
  intro c hc
  obtain rfl : 'm' = c := Option.some.inj hc
  decide

end Xhtml
end BookIndex
