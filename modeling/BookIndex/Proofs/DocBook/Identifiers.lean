import BookIndex.Proofs.DocBook.Session
import BookIndex.Proofs.Xml.Names
import BookIndex.Xhtml.Render

namespace BookIndex

open Xml

/-- The identifiers that a tag gives to a range or refers to. -/
def Xml.Token.ids (t : Token) : List Text :=
  (t.attribute? "xml:id".toList).toList ++ (t.attribute? "startref".toList).toList

namespace DocBook

open Markup

variable {o : Options} {table : RangeTable} {entry : Text × Option Text}

def IndexTerm.ids (t : IndexTerm) : List Text := t.tokens.flatMap Token.ids

def Result.ids (r : Result) : List Text := r.term.toList.flatMap IndexTerm.ids

theorem nameable_ofInt (n : ℤ) : Nameable (Text.ofInt n) := by
  have hdigits (k : ℕ) : ∀ c ∈ Text.ofNat k, c.toNat < 0xAA := by
    intro c hc
    have hdigit := Text.isDigit_of_mem_ofNat hc
    simp only [Char.isDigit, Bool.and_eq_true, decide_eq_true_eq] at hdigit
    have hle : c.toNat ≤ 57 := hdigit.2
    omega
  apply nameable_of_lt
  cases n with
  | ofNat k => exact hdigits k
  | negSucc k => exact List.forall_mem_cons.2 ⟨by decide, hdigits (k + 1)⟩

theorem isNCName_identifier (table : RangeTable) (path : Text) :
    isNCName (table.identifier path) = true ↔ Nameable path := by
  unfold RangeTable.identifier
  split
  · have hcounter : Nameable ('-' :: Text.ofInt table.counter) :=
      List.forall_mem_cons.2 ⟨by decide, nameable_ofInt table.counter⟩
    rw [isNCName_cleanId, nameable_append, and_iff_left hcounter]
  · exact isNCName_cleanId path

theorem ids_levelTokens (sortAs : Option Text) (ls : List (Text × Text)) :
    (IndexTerm.levelTokens sortAs ls).flatMap Token.ids = [] := by
  cases ls with
  | nil => rfl
  | cons l ls =>
    have hrest :
        (ls.flatMap fun l ↦ element l.1 l.2 [] IndexTerm.quote).flatMap Token.ids = [] := by
      rw [List.flatMap_assoc, List.flatMap_eq_nil_iff]
      exact fun l _ ↦ rfl
    cases sortAs with
    | none => exact hrest
    | some key => exact hrest

theorem ids_referenceTokens (ref : Reference) :
    (IndexTerm.referenceTokens ref).flatMap Token.ids = [] := by
  cases ref with
  | none => rfl
  | see target => rfl
  | seeAlso targets =>
    rw [IndexTerm.referenceTokens, List.flatMap_assoc, List.flatMap_eq_nil_iff]
    exact fun t _ ↦ rfl

theorem ids_term (index rangeId sortAs : Option Text) (levels : List Text) (ref : Reference) :
    (IndexTerm.term index rangeId sortAs levels ref).ids = rangeId.toList := by
  simp only [IndexTerm.ids, IndexTerm.tokens, List.flatMap_append, ids_levelTokens,
    ids_referenceTokens, List.append_nil]
  cases index <;> cases rangeId <;> rfl

theorem ids_render_end {path : Text} (h : mark? o entry = some ⟨false, path⟩) :
    (render o table entry.1 entry.2).ids = [table.identifier path] := by
  obtain ⟨log, hrender⟩ := render_end table h
  rw [hrender]
  rfl

theorem ids_render_start {path : Text} (h : mark? o entry = some ⟨true, path⟩) :
    (render o table entry.1 entry.2).ids = if path = [] then [] else [table.identifier path] := by
  obtain ⟨log, sortAs, levels, hrender⟩ := render_start table h
  rw [hrender]
  split
  · rfl
  · exact (List.append_nil _).trans (ids_term _ _ _ _ _)

theorem ids_render_of_no_mark (h : mark? o entry = none) :
    (render o table entry.1 entry.2).ids = [] := by
  simp only [mark?] at h
  split at h
  · cases h
  · cases h
  · simp only [render, indexTerm]
    split
    · rfl
    · exact (List.append_nil _).trans (ids_term _ _ _ _ _)

theorem isNCName_ids_render : (∀ id ∈ (render o table entry.1 entry.2).ids, isNCName id = true) ↔
    ∀ mark ∈ mark? o entry, Nameable mark.path := by
  cases hmark : mark? o entry with
  | none => simp [ids_render_of_no_mark hmark]
  | some mark =>
    obtain ⟨starts, path⟩ := mark
    cases starts with
    | false => simp [ids_render_end hmark, isNCName_identifier]
    | true =>
      rw [ids_render_start hmark]
      by_cases hpath : path = []
      · simp [hpath, Nameable]
      · simp [hpath, isNCName_identifier]

theorem isNCName_ids_renderAll (table : RangeTable) (entries : List (Text × Option Text)) :
    (∀ r ∈ renderAll o table entries, ∀ id ∈ r.ids, isNCName id = true) ↔
      ∀ entry ∈ entries, ∀ mark ∈ mark? o entry, Nameable mark.path := by
  induction entries generalizing table with
  | nil => simp [renderAll]
  | cons entry entries ih =>
    rw [renderAll, List.forall_mem_cons, List.forall_mem_cons, isNCName_ids_render, ih]

/-- An identifier is a name without a colon exactly if its text has no letter or number that no name
has. So the identifiers of a document's ranges are names exactly if the term paths of its starts and
ends have none of these, and an anchor is one exactly if its position has none. -/
theorem identifiers_are_names_iff (s : Text) (o : Options) (table : RangeTable)
    (entries : List (Text × Option Text)) (position : Option Text) :
    (isNCName (cleanId s) = true ↔ Nameable s) ∧
    ((∀ r ∈ renderAll o table entries, ∀ id ∈ r.ids, isNCName id = true) ↔
      ∀ entry ∈ entries, ∀ mark ∈ mark? o entry, Nameable mark.path) ∧
    (isNCName (Xhtml.anchorId position) = true ↔ Nameable (position.getD [])) := by
  refine ⟨isNCName_cleanId s, ?_, isNCName_cleanId (position.getD [])⟩
  exact isNCName_ids_renderAll table entries

/-- The feminine ordinal indicator is a letter, but no name has it. -/
theorem identifier_of_ordinal : cleanId ['ª'] = ['ª'] ∧ isNCName (cleanId ['ª']) = false ∧
    (renderAll standard .empty [("ª|(".toList, none)]).map Result.output = [
      "<indexterm class=\"startofrange\" xml:id=\"ª\"><primary>ª</primary></indexterm>".toList] := by
  decide +kernel

end DocBook
end BookIndex
