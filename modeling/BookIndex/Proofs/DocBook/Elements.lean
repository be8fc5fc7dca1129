import BookIndex.Proofs.DocBook.Reading
import BookIndex.Proofs.DocBook.Session

namespace BookIndex.DocBook

open Markup
open Xml (Leaf)

namespace IndexTerm

def leafTokens (l : Leaf) : List Xml.Token := Xml.element l.name l.text l.attrs quote

theorem events_leafTokens (ls : List Leaf) :
    Xml.events (ls.flatMap leafTokens) = ls.flatMap Leaf.events := by
  induction ls with
  | nil => rfl
  | cons l ls ih =>
    rw [List.flatMap_cons, Xml.events_append, ih, List.flatMap_cons]
    simp [leafTokens, Xml.element, Xml.Token.events, Leaf.events, Leaf.opening]

theorem referenceTokens_eq (ref : Reference) :
    referenceTokens ref = ref.leaves.flatMap leafTokens := by
  cases ref with
  | none => rfl
  | see target => rfl
  | seeAlso targets =>
    rw [Reference.leaves, List.flatMap_map]
    rfl

theorem levelTokens_eq (sortAs : Option Text) (level : Text) (levels : List Text) :
    levelTokens sortAs (levelNames.zip (level :: levels)) =
      (⟨"primary".toList, sortAs.toList.map ("sortas".toList, ·), level⟩ ::
        (levels[0]?.toList.map (Leaf.mk "secondary".toList []) ++
          levels[1]?.toList.map (Leaf.mk "tertiary".toList []))).flatMap leafTokens := by
  match levels with
  | [] => rfl
  | [_] => rfl
  | _ :: _ :: _ => rfl

/-- The reading of a term with a first level. -/
def reading (type rangeId sortAs : Option Text) (level : Text) (levels : List Text)
    (reference : Reference) : Reading :=
  ⟨type, rangeId, sortAs, level, levels[0]?, levels[1]?, reference⟩

theorem tokens_term (type rangeId sortAs : Option Text) (level : Text) (levels : List Text)
    (ref : Reference) :
    (term type rangeId sortAs (level :: levels) ref).tokens =
      .start "indexterm".toList (reading type rangeId sortAs level levels ref).attrs quote ::
        ((reading type rangeId sortAs level levels ref).leaves.flatMap leafTokens ++
          [.finish "indexterm".toList]) := by
  simp only [tokens, levelTokens_eq, referenceTokens_eq, reading, Reading.attrs,
    Reading.rangeAttrs, Reading.leaves, List.flatMap_cons, List.flatMap_append, List.append_assoc,
    List.cons_append, List.nil_append]

theorem plain_leafTokens {ls : List Leaf}
    (h : ∀ l ∈ ls, Xml.PlainName l.name ∧ ∀ a ∈ l.attrs, Xml.PlainName a.1) :
    ∀ t ∈ ls.flatMap leafTokens, t.Plain := by
  intro t ht
  obtain ⟨l, hl, ht⟩ := List.mem_flatMap.1 ht
  obtain ⟨hname, hattrs⟩ := h l hl
  simp only [leafTokens, Xml.element, List.mem_cons, List.not_mem_nil, or_false] at ht
  rcases ht with rfl | rfl | rfl
  · exact ⟨hname, fun a ha ↦ ⟨hattrs a ha, '"', by decide, rfl⟩⟩
  · trivial
  · exact hname

theorem plain_leaves (r : Reading) : ∀ t ∈ r.leaves.flatMap leafTokens, t.Plain := by
  have hmk {name : Text} (hname : Xml.PlainName name) (ss : List Text) :
      ∀ l ∈ ss.map (Leaf.mk name []), Xml.PlainName l.name ∧ ∀ a ∈ l.attrs, Xml.PlainName a.1 :=
    List.forall_mem_map.2 fun _ _ ↦ ⟨hname, nofun⟩
  refine plain_leafTokens (List.forall_mem_cons.2 ⟨⟨?_, ?_⟩, ?_⟩)
  · exact (by decide : Xml.PlainName "primary".toList)
  · exact List.forall_mem_map.2 fun _ _ ↦ (by decide : Xml.PlainName "sortas".toList)
  refine List.forall_mem_append.2 ⟨hmk (by decide) _, ?_⟩
  refine List.forall_mem_append.2 ⟨hmk (by decide) _, ?_⟩
  cases r.reference with
  | none => exact nofun
  | see target => exact hmk (by decide) [target]
  | seeAlso targets => exact hmk (by decide) targets

theorem plain_attrs (r : Reading) : ∀ a ∈ r.attrs, Xml.PlainName a.1 := by
  refine List.forall_mem_append.2 ⟨?_, ?_⟩
  · exact List.forall_mem_map.2 fun _ _ ↦ (by decide : Xml.PlainName "type".toList)
  · cases r.rangeId with
    | none => exact nofun
    | some id =>
      refine List.forall_mem_cons.2 ⟨?_, List.forall_mem_singleton.2 ?_⟩
      · exact (by decide : Xml.PlainName "class".toList)
      · exact (by decide : Xml.PlainName "xml:id".toList)

theorem read_write_term (type rangeId sortAs : Option Text) (level : Text) (levels : List Text)
    (ref : Reference) :
    Xml.read (Xml.write (term type rangeId sortAs (level :: levels) ref).tokens) =
      some (reading type rangeId sortAs level levels ref).events := by
  have hplain : ∀ t ∈ (term type rangeId sortAs (level :: levels) ref).tokens, t.Plain := by
    have hname : Xml.PlainName "indexterm".toList := by decide
    rw [tokens_term]
    refine List.forall_mem_cons.2 ⟨?_, List.forall_mem_append.2 ⟨plain_leaves _, ?_⟩⟩
    · exact ⟨hname, fun a ha ↦ ⟨plain_attrs _ a ha, '"', by decide, rfl⟩⟩
    · exact List.forall_mem_singleton.2 hname
  rw [Xml.read_write hplain, tokens_term, Xml.events_cons, Xml.events_append, events_leafTokens]
  rfl

end IndexTerm

def Lists (text : Text) (name : Text) (targets : List Text) : Prop :=
  ∃ s, Command.unescapeBraces text = name ++ '\x7b' :: s ∧
    Command.targetsOf (Command.body s).1 = targets

def Refers (e : Entry) : Reference → Prop
  | .none => e.command.kind ≠ .see ∧ e.command.kind ≠ .seeAlso
  | .see target => e.command.kind = .see ∧ e.command.targets = [target] ∧
      ∃ text more, e.commandText = some text ∧ Lists text "see".toList (target :: more)
  | .seeAlso targets => e.command.kind = .seeAlso ∧ e.command.targets = targets ∧ targets ≠ [] ∧
      ∃ text, e.commandText = some text ∧ Lists text "seealso".toList targets

/-- A reading says what an entry says. -/
structure Reading.Tells (r : Reading) (o : Options) (index : Option Text) (e : Entry) : Prop where
  type (i : Text) : r.type = some i ↔ o.useIndices = true ∧ index = some i ∧ i ≠ []
  range : r.rangeId.isSome ↔ e.command.kind = .rangeStart
  sortAs : r.sortAs = e.sortKey
  primary : e.levels[0]? = some r.primary
  secondary : r.secondary = e.levels[1]?
  tertiary : r.tertiary = e.levels[2]?
  reference : Refers e r.reference

theorem kind_of_range? {s : Text} {c : Command} (h : Command.range? s = some c) :
    c.kind = .rangeStart ∨ c.kind = .rangeEnd := by
  simp only [Command.range?] at h
  split at h
  · cases h
    exact .inl rfl
  · split at h
    · cases h
      exact .inr rfl
    · cases h

theorem lists_of_reference? {s : Text} {c : Command} (h : Command.reference? s = some c) :
    (∃ target more, c.kind = .see ∧ c.targets = [target] ∧
        Lists s "see".toList (target :: more)) ∨
      c.kind = .seeAlso ∧ c.targets ≠ [] ∧ Lists s "seealso".toList c.targets := by
  simp only [Command.reference?] at h
  split at h
  · rename_i s' hs
    have hs := List.isPrefixOf?_eq_some_iff_append_eq.1 hs
    split at h
    · cases h
    · rename_i targets hne
      cases h
      exact .inr ⟨rfl, hne, s', hs.symm, rfl⟩
  · split at h
    · rename_i s' hs
      have hs := List.isPrefixOf?_eq_some_iff_append_eq.1 hs
      split at h
      · cases h
      · rename_i target others htargets
        cases h
        exact .inl ⟨target, others, rfl, rfl, s', hs.symm, htargets⟩
    · cases h

theorem reference?_of_ofText? {text : Option Text}
    (h : (Command.ofText? text).kind = .see ∨ (Command.ofText? text).kind = .seeAlso) :
    ∃ s, text = some s ∧ Command.reference? s = some (.ofText? text) := by
  cases text with
  | none => exact absurd h (by decide)
  | some s =>
    refine ⟨s, rfl, ?_⟩
    simp only [Command.ofText?, Command.ofText] at h ⊢
    split at h
    · rename_i range hrange
      rcases kind_of_range? hrange with hk | hk
      · rw [hk] at h
        exact absurd h (by decide)
      · rw [hk] at h
        exact absurd h (by decide)
    · split at h
      · assumption
      · split at h
        · exact absurd h (by decide)
        · exact absurd h (by simp [Command.kind])

theorem refers_reference {e : Entry} (h : e.command = .ofText? e.commandText) :
    Refers e (reference e.command) := by
  have hlists (hk : e.command.kind = .see ∨ e.command.kind = .seeAlso) :
      ∃ s, e.commandText = some s ∧ Command.reference? s = some e.command := by
    rw [h] at hk ⊢
    exact reference?_of_ofText? hk
  cases hc : e.command with
  | none => simp [Refers, reference, hc, Command.kind]
  | format style => simp [Refers, reference, hc, Command.kind]
  | rangeStart rest => simp [Refers, reference, hc, Command.kind]
  | rangeEnd rest => simp [Refers, reference, hc, Command.kind]
  | see target more rest =>
    obtain ⟨s, hs, href⟩ := hlists (.inl (by rw [hc]; rfl))
    rw [hc] at href
    rcases lists_of_reference? href with ⟨target', others, -, ht, hlist⟩ | ⟨hk, -⟩
    · cases ht
      exact ⟨by rw [hc]; rfl, by rw [hc]; rfl, s, others, hs, hlist⟩
    · cases hk
  | seeAlso targets rest =>
    obtain ⟨s, hs, href⟩ := hlists (.inr (by rw [hc]; rfl))
    rw [hc] at href
    rcases lists_of_reference? href with ⟨target', others, hk, -⟩ | ⟨-, hne, hlist⟩
    · cases hk
    · exact ⟨by rw [hc]; rfl, by rw [hc]; rfl, hne, s, hs, hlist⟩

theorem index?_eq_some_iff (o : Options) (index : Option Text) (i : Text) :
    o.index? index = some i ↔ o.useIndices = true ∧ index = some i ∧ i ≠ [] := by
  cases index with
  | none => simp [Options.index?]
  | some index =>
    simp only [Options.index?, Option.ite_none_right_eq_some, Bool.and_eq_true, Option.some_inj,
      Bool.not_eq_true', List.isEmpty_eq_false_iff]
    constructor
    · rintro ⟨⟨huse, hne⟩, rfl⟩
      exact ⟨huse, rfl, hne⟩
    · rintro ⟨huse, rfl, hne⟩
      exact ⟨⟨huse, hne⟩, rfl⟩

theorem indexTerm_of_ne_rangeEnd (o : Options) (table : RangeTable) (index : Option Text)
    {e : Entry} (h : e.command.kind ≠ .rangeEnd) : ∃ rangeId : Option Text,
      (indexTerm o table index e).1 =
        .term (o.index? index) rangeId e.sortKey e.levels (reference e.command) ∧
      (rangeId.isSome ↔ e.command.kind = .rangeStart) := by
  unfold indexTerm
  split
  · rename_i hk
    exact absurd hk h
  · rename_i hk
    refine ⟨some (table.step e.termPath false).1, ?_, iff_of_true rfl hk⟩
    have href : reference e.command = .none := by
      cases hc : e.command <;> simp_all [Command.kind, reference]
    rw [href]
  · rename_i hk
    exact ⟨none, rfl, iff_of_false nofun hk⟩

theorem read_indexTerm (o : Options) (table : RangeTable) (index : Option Text) {e : Entry}
    (hcommand : e.command = .ofText? e.commandText) (hend : e.command.kind ≠ .rangeEnd)
    (hlevels : e.levels ≠ []) : ∃ reading : Reading,
      Xml.read (Xml.write (indexTerm o table index e).1.tokens) = some reading.events ∧
        Reading.ofEvents? reading.events = some reading ∧ reading.Tells o index e := by
  obtain ⟨rangeId, hterm, hrange⟩ := indexTerm_of_ne_rangeEnd o table index hend
  obtain ⟨level, levels, hl⟩ := List.exists_cons_of_ne_nil hlevels
  have href := refers_reference hcommand
  have hne : reference e.command ≠ .seeAlso [] := by
    intro he
    rw [he] at href
    exact href.2.2.1 rfl
  refine ⟨IndexTerm.reading (o.index? index) rangeId e.sortKey level levels (reference e.command),
    ?_, Reading.ofEvents?_eq_some_iff.2 ⟨rfl, hne⟩, ?_⟩
  · rw [hterm, hl, IndexTerm.read_write_term]
  · refine ⟨index?_eq_some_iff o index, hrange, rfl, ?_, ?_, ?_, href⟩
    · rw [hl]
      rfl
    · rw [hl]
      rfl
    · rw [hl]
      rfl

theorem read_rangeEnd (o : Options) (table : RangeTable) (index : Option Text) {e : Entry}
    (h : e.command.kind = .rangeEnd) :
    ∃ id, Xml.read (Xml.write (indexTerm o table index e).1.tokens) = some
      [.empty "indexterm".toList
        [("class".toList, "endofrange".toList), ("startref".toList, id)]] := by
  have hterm : (indexTerm o table index e).1 = .rangeEnd (table.step e.termPath true).1 := by
    rw [indexTerm, h]
  have hclass : Xml.PlainName "class".toList := by decide
  have hstart : Xml.PlainName "startref".toList := by decide
  refine ⟨(table.step e.termPath true).1, ?_⟩
  rw [hterm, Xml.read_write]
  · rfl
  · refine List.forall_mem_singleton.2 ⟨by decide, List.forall_mem_cons.2 ⟨?_, ?_⟩⟩
    · exact ⟨hclass, '"', by decide, rfl⟩
    · exact List.forall_mem_singleton.2 ⟨hstart, '"', by decide, rfl⟩

theorem render_term (o : Options) (table : RangeTable) (raw : Text) (index : Option Text) :
    (render o table raw index).term =
      if (parse o.escape (Text.trim raw)).levels = [] ∧
          (parse o.escape (Text.trim raw)).command.kind ≠ .rangeEnd then none
      else some (indexTerm o table index (parse o.escape (Text.trim raw))).1 := by
  simp only [render, any_noTermFound, Bool.and_eq_true, List.isEmpty_iff, bne_iff_ne]
  split
  · rfl
  · rfl

theorem write_tokens_ne_nil (t : IndexTerm) : Xml.write t.tokens ≠ [] := by
  cases t with
  | rangeEnd startRef => exact nofun
  | term index rangeId sortAs levels reference => exact nofun

/-- The output of an entry is its comments and then an element, unless the entry has no term. The
element of the end of a range is empty and holds only the reference to the start; that of another
entry is an `indexterm` with levels and cross references that reads back as the entry. -/
theorem element_reads_back (o : Options) (table : RangeTable) (raw : Text) (index : Option Text) :
    let e := parse o.escape (Text.trim raw)
    let r := render o table raw index
    ∃ element : Text, r.output = r.diagnostics.flatMap Diagnostic.comment ++ element ∧
      (element = [] ↔ e.levels = [] ∧ e.command.kind ≠ .rangeEnd) ∧
      (e.command.kind = .rangeEnd → ∃ id, Xml.read element = some
        [.empty "indexterm".toList
          [("class".toList, "endofrange".toList), ("startref".toList, id)]]) ∧
      (element ≠ [] → e.command.kind ≠ .rangeEnd →
        ∃ reading : Reading, Xml.read element = some reading.events ∧
          Reading.ofEvents? reading.events = some reading ∧ reading.Tells o index e) := by
  intro e r
  have hterm : r.term = _ := render_term o table raw index
  refine ⟨(r.term.map fun t ↦ Xml.write t.tokens).getD [], rfl, ?_⟩
  rw [hterm]
  split
  · rename_i h
    exact ⟨iff_of_true rfl h, fun hend ↦ absurd hend h.2, fun hne ↦ absurd rfl hne⟩
  · rename_i h
    rw [Option.map_some, Option.getD_some]
    refine ⟨iff_of_false (write_tokens_ne_nil _) h, read_rangeEnd o table index, fun _ hend ↦ ?_⟩
    exact read_indexTerm o table index rfl hend fun hl ↦ h ⟨hl, hend⟩

end BookIndex.DocBook
