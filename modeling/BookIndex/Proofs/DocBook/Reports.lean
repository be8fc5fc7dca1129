import BookIndex.Proofs.DocBook.Comments
import BookIndex.Proofs.DocBook.Elements
import BookIndex.Proofs.Markup.Classification

namespace BookIndex

/-- What a reader meets of one element: an empty tag, or two tags around leaves of other names. -/
def Xml.IsElement (name : Text) (es : List Xml.Event) : Prop :=
  (∃ attrs, es = [.empty name attrs]) ∨
    ∃ (attrs : Xml.Attrs) (leaves : List Xml.Leaf),
      es = .start name attrs :: (leaves.flatMap Xml.Leaf.events ++ [.finish name]) ∧
        ∀ l ∈ leaves, l.name ≠ name

namespace DocBook

open Markup

/-- What stands behind the comments of an entry. -/
def Result.element (r : Result) : Text := (r.term.map fun t ↦ Xml.write t.tokens).getD []

/-- The kinds of reports in the order in which they come. -/
def reportKinds : List DiagnosticKind :=
  [.unsupportedSortMarkup, .multipleSeeTargets, .unsupportedTrailingCommand, .noTermFound]

/-- The condition under which a kind of problem is reported of a trimmed entry. -/
def Reported (raw : Text) (e : Entry) : DiagnosticKind → Prop
  | .unsupportedSortMarkup => ['@', '\\'] <:+: raw
  | .multipleSeeTargets => e.command.kind = .see ∧ ∃ text list, e.commandText = some text ∧
      Command.plainBraces text = "see".toList ++ '{' :: list ∧ 2 ≤ (Command.listed list).length
  | .unsupportedTrailingCommand => e.command.leftover ≠ []
  | .noTermFound => e.levels = [] ∧ e.command.kind ≠ .rangeEnd
  | .uncodableSortCharacter | .sortKeyMismatch => False

theorem hasMoreTargets_iff (text : Option Text) :
    (Command.ofText? text).hasMoreTargets = true ↔
      (Command.ofText? text).kind = .see ∧ ∃ s list, text = some s ∧
        Command.plainBraces s = "see".toList ++ '{' :: list ∧ 2 ≤ (Command.listed list).length := by
  cases text with
  | none => exact iff_of_false nofun fun h ↦ nomatch h.1
  | some s =>
    constructor
    · intro h
      obtain ⟨list, hlist, hmore⟩ := (Command.hasMoreTargets_ofText_iff s).1 h
      exact ⟨Command.kind_of_hasMoreTargets h, s, list, rfl, hlist.braces, hmore⟩
    · rintro ⟨hkind, _, list, hs, hbraces, hmore⟩
      cases hs
      obtain ⟨list', hlist⟩ := (Command.kind_ofText_iff s .see).1 hkind
      have he : list = list' := by
        have hboth := hbraces.symm.trans hlist.braces
        simpa using hboth
      exact (Command.hasMoreTargets_ofText_iff s).2 ⟨list', hlist, he ▸ hmore⟩

theorem exists_kind_iff {raw : Text} {e : Entry} (h : e.command = .ofText? e.commandText)
    (kind : DiagnosticKind) : (∃ d ∈ problems raw e, d.kind = kind) ↔ Reported raw e kind := by
  have hany : (∃ d ∈ problems raw e, d.kind = kind) ↔
      (problems raw e).any (·.kind == kind) = true := by
    simp only [List.any_eq_true, beq_iff_eq]
  have hmore := hasMoreTargets_iff e.commandText
  rw [← h] at hmore
  rw [hany, problems, List.any_append, List.any_append, List.any_append, any_when, any_when,
    any_unless, any_when]
  cases kind <;> simp [Reported, hmore, Text.occurs_iff_infix]

theorem map_kind_when_sublist (d : Diagnostic) (c : Bool) :
    ((if c then [d] else []).map (·.kind)).Sublist [d.kind] := by
  cases c <;> simp

theorem map_kind_unless_sublist (d : Diagnostic) (c : Bool) :
    ((if c then [] else [d]).map (·.kind)).Sublist [d.kind] := by
  cases c <;> simp

theorem kinds_sublist (raw : Text) (e : Entry) :
    ((problems raw e).map (·.kind)).Sublist reportKinds := by
  rw [problems, List.map_append, List.map_append, List.map_append]
  exact (((map_kind_when_sublist _ _).append (map_kind_when_sublist _ _)).append
    (map_kind_unless_sublist _ _)).append (map_kind_when_sublist _ _)

theorem element_eq_nil_iff (o : Options) (table : RangeTable) (raw : Text) (index : Option Text) :
    (render o table raw index).element = [] ↔
      (parse o.escape (Text.trim raw)).levels = [] ∧
        (parse o.escape (Text.trim raw)).command.kind ≠ .rangeEnd := by
  rw [Result.element, render_term]
  split
  · rename_i h
    exact iff_of_true rfl h
  · rename_i h
    exact iff_of_false (write_tokens_ne_nil _) h

theorem name_ne_of_mem_leaves (r : Reading) : ∀ l ∈ r.leaves, l.name ≠ "indexterm".toList := by
  refine List.forall_mem_cons.2 ⟨(by decide : "primary".toList ≠ "indexterm".toList), ?_⟩
  refine List.forall_mem_append.2 ⟨?_, List.forall_mem_append.2 ⟨?_, ?_⟩⟩
  · exact List.forall_mem_map.2 fun _ _ ↦ (by decide : "secondary".toList ≠ "indexterm".toList)
  · exact List.forall_mem_map.2 fun _ _ ↦ (by decide : "tertiary".toList ≠ "indexterm".toList)
  · exact Reference.name_ne_of_mem_leaves (by decide) (by decide)

theorem read_element (o : Options) (table : RangeTable) (raw : Text) (index : Option Text)
    (h : (render o table raw index).element ≠ []) :
    ∃ es, Xml.read (render o table raw index).element = some es ∧
      Xml.IsElement "indexterm".toList es := by
  have hlevels := mt (element_eq_nil_iff o table raw index).2 h
  rw [Result.element, render_term, if_neg hlevels, Option.map_some, Option.getD_some]
  by_cases hend : (parse o.escape (Text.trim raw)).command.kind = .rangeEnd
  · obtain ⟨id, hread⟩ := read_rangeEnd o table index hend
    exact ⟨_, hread, .inl ⟨_, rfl⟩⟩
  · obtain ⟨r, hread, -, -⟩ := read_indexTerm o table index rfl hend fun hl ↦ hlevels ⟨hl, hend⟩
    exact ⟨_, hread, .inr ⟨r.attrs, r.leaves, rfl, name_ne_of_mem_leaves r⟩⟩

theorem noTermFound_iff (o : Options) (table : RangeTable) (raw : Text) (index : Option Text) :
    (∃ d ∈ (render o table raw index).diagnostics, d.kind = .noTermFound) ↔
      (render o table raw index).element = [] := by
  rw [render_diagnostics, exists_kind_iff rfl, element_eq_nil_iff]
  rfl

theorem table_of_noTermFound {o : Options} {table : RangeTable} {raw : Text} {index : Option Text}
    (h : ∃ d ∈ (render o table raw index).diagnostics, d.kind = .noTermFound) :
    (render o table raw index).table = table := by
  obtain ⟨d, hd, hk⟩ := h
  rw [render_diagnostics] at hd
  have hany : (problems (Text.trim raw) (parse o.escape (Text.trim raw))).any
      (·.kind == .noTermFound) = true := List.any_eq_true.2 ⟨d, hd, beq_iff_eq.2 hk⟩
  simp only [render, hany, if_true]

theorem length_ofKind (raw : Text) (e : Entry) (kind : DiagnosticKind) :
    (Diagnostic.ofKind kind (problems raw e)).length =
      if ∃ d ∈ problems raw e, d.kind = kind then 1 else 0 := by
  have hnodup : ((problems raw e).map (·.kind)).Nodup :=
    (kinds_sublist raw e).nodup (by decide)
  have hcount : (Diagnostic.ofKind kind (problems raw e)).length =
      ((problems raw e).map (·.kind)).count kind := by
    rw [Diagnostic.ofKind, List.count, List.countP_map, List.countP_eq_length_filter]
    rfl
  have hmem : kind ∈ (problems raw e).map (·.kind) ↔ ∃ d ∈ problems raw e, d.kind = kind :=
    List.mem_map
  rw [hcount, hnodup.count]
  exact if_congr hmem rfl rfl

theorem element_or_report (o : Options) (table : RangeTable) (raw : Text) (index : Option Text) :
    (if !(render o table raw index).element.isEmpty then 1 else 0) +
      (Diagnostic.ofKind .noTermFound (render o table raw index).diagnostics).length = 1 := by
  have hnone := noTermFound_iff o table raw index
  rw [render_diagnostics] at hnone ⊢
  rw [length_ofKind]
  cases he : (render o table raw index).element with
  | nil => rw [if_pos (hnone.2 he), List.isEmpty_nil, if_neg (by decide)]
  | cons c s =>
    have hsome : (render o table raw index).element ≠ [] := he ▸ List.cons_ne_nil c s
    rw [if_neg (mt hnone.1 hsome), List.isEmpty_cons, if_pos (by decide)]

theorem count_elements (o : Options) (table : RangeTable) (entries : List (Text × Option Text)) :
    ((renderAll o table entries).map Result.element).countP (!·.isEmpty) +
      (Diagnostic.ofKind .noTermFound
        ((renderAll o table entries).flatMap Result.diagnostics)).length = entries.length := by
  induction entries generalizing table with
  | nil => rfl
  | cons entry entries ih =>
    obtain ⟨raw, index⟩ := entry
    have hentry := element_or_report o table raw index
    have hrest := ih (render o table raw index).table
    rw [renderAll, List.map_cons, List.countP_cons, List.flatMap_cons, Diagnostic.ofKind,
      List.filter_append, List.length_append, List.length_cons]
    rw [Diagnostic.ofKind] at hentry hrest
    omega

/-- The output of an entry is the comments of its reports in order and then its element, which is
missing exactly if a report says that there is no term. Reports come in a fixed order, each kind at
most once and under its own condition, and an entry without a term leaves the range table as it is.
So the elements and the reports of missing terms of a document are as many as its entries. -/
theorem output_of_reports (o : Options) (table : RangeTable) :
    (∀ (raw : Text) (index : Option Text),
      let r := render o table raw index
      let e := parse o.escape (Text.trim raw)
      r.output = r.diagnostics.flatMap Diagnostic.comment ++ r.element ∧
      (r.element = [] ↔ ∃ d ∈ r.diagnostics, d.kind = .noTermFound) ∧
      (r.element ≠ [] → ∃ es, Xml.read r.element = some es ∧
        Xml.IsElement "indexterm".toList es) ∧
      (r.diagnostics.map (·.kind)).Sublist reportKinds ∧
      (∀ kind, (∃ d ∈ r.diagnostics, d.kind = kind) ↔ Reported (Text.trim raw) e kind) ∧
      ((∃ d ∈ r.diagnostics, d.kind = .noTermFound) → r.table = table)) ∧
    ∀ entries : List (Text × Option Text),
      ((renderAll o table entries).map Result.element).countP (!·.isEmpty) +
        (Diagnostic.ofKind .noTermFound
          ((renderAll o table entries).flatMap Result.diagnostics)).length = entries.length := by
  refine ⟨fun raw index ↦ ?_, count_elements o table⟩
  refine ⟨rfl, (noTermFound_iff o table raw index).symm, read_element o table raw index, ?_, ?_,
    table_of_noTermFound⟩
  · rw [render_diagnostics]
    exact kinds_sublist _ _
  · rw [render_diagnostics]
    exact exists_kind_iff rfl

example : (render standard .empty "|see\x7b@\\A, B\x7drest".toList none).diagnostics.map (·.kind) =
    reportKinds := by decide +kernel

end DocBook
end BookIndex
