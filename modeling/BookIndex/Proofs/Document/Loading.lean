import BookIndex.Document.Store
import BookIndex.Proofs.Document.Items
import BookIndex.Proofs.Files.Errors

namespace BookIndex.Document

open Files

def Stores (f : Format) (tree : Tree) (path : Text) (v : Value) : Prop :=
  ∃ content, tree.read path = .ok content ∧ f.parse (Text.unifyLines content) = .ok v

/-- Reading the text in the file at a path fails for another reason than its form. -/
def Misread (f : Format) (tree : Tree) (path : Text) : Prop :=
  ∃ content e, tree.read path = .ok content ∧ f.parse (Text.unifyLines content) = .error e ∧
    ∀ message, e ≠ .form message

def TakesSettings (fields : Value.Fields) : Prop :=
  (Value.get fields "settings").truthy = true →
    ∃ settings, Value.get fields "settings" = .mapping settings

def Shapeless (v : Value) : Prop := v.truthy = true ∧ v.members? = none

/-- Of the members of a value the first one that is not normalised has a markup, but a field without
a text. -/
def Textless (v : Value) : Prop :=
  v.truthy = true ∧ ∃ items, v.members? = some items ∧
    ∃ before item after, items = before ++ item :: after ∧
      (∀ v ∈ before, hasMarkup v = true ∧ HasTexts v) ∧ hasMarkup item = true ∧ ¬HasTexts item

/-- A mapping whose settings can be taken, but not its occurrences, and not for want of a markup. -/
def Unloadable (v : Value) : Prop :=
  ∃ fields, v = .mapping fields ∧ TakesSettings fields ∧
    (Shapeless (Value.get fields "occurrences") ∨ Textless (Value.get fields "occurrences"))

theorem readFrom_escapes_iff (number : ℕ) (items : List Value) :
    (∃ e, (readFrom number items).2 = some e ∧ e.isReported = false) ↔
      ∃ e, (readFrom number items).2 = some (.fault e) := by
  constructor
  · rintro ⟨e, he, hr⟩
    induction items generalizing number with
    | nil => cases he
    | cons v items ih =>
      rw [readFrom] at he ⊢
      split at he
      · cases he
        cases hr
      · rename_i e' h
        exact ⟨e', rfl⟩
      · exact ih (number + 1) he
  · rintro ⟨e, he⟩
    exact ⟨.fault e, he, rfl⟩

theorem loadOccurrences_escapes_iff (settings fields : Value.Fields) :
    (∃ e, (load.loadOccurrences settings fields).2 = some e ∧ e.isReported = false) ↔
      Shapeless (Value.get fields "occurrences") ∨ Textless (Value.get fields "occurrences") := by
  unfold load.loadOccurrences members Shapeless Textless
  cases (Value.get fields "occurrences").truthy with
  | false =>
    refine iff_of_false ?_ ?_
    · rintro ⟨e, he, -⟩
      cases he
    · rintro (⟨h, -⟩ | ⟨h, -⟩) <;> cases h
  | true =>
    cases (Value.get fields "occurrences").members? with
    | none => exact iff_of_true ⟨_, rfl, rfl⟩ (.inl ⟨rfl, rfl⟩)
    | some items =>
      refine (readFrom_escapes_iff 1 items).trans ((readFrom_fault_iff 1 items).trans ?_)
      constructor
      · exact fun h ↦ .inr ⟨rfl, items, rfl, h⟩
      · rintro (⟨-, h⟩ | ⟨-, items', h, hitems⟩)
        · cases h
        · cases h
          exact hitems

theorem load_escapes_iff (doc : Document) (v : Value) :
    (∃ e, (doc.load v).2 = some e ∧ e.isReported = false) ↔ Unloadable v := by
  cases v with
  | mapping fields =>
    have hfields : Unloadable (.mapping fields) ↔ TakesSettings fields ∧
        (Shapeless (Value.get fields "occurrences") ∨
          Textless (Value.get fields "occurrences")) := by
      constructor
      · rintro ⟨_, hf, h⟩
        cases hf
        exact h
      · exact fun h ↦ ⟨fields, rfl, h⟩
    rw [hfields, load]
    split
    · rename_i settings ht hs
      have htakes : TakesSettings fields := fun _ ↦ ⟨settings, hs⟩
      rw [and_iff_right htakes]
      exact loadOccurrences_escapes_iff settings fields
    · rename_i ht hs
      refine iff_of_false ?_ ?_
      · rintro ⟨e, he, hr⟩
        cases he
        cases hr
      · rintro ⟨htakes, -⟩
        obtain ⟨settings, hsettings⟩ := htakes ht
        exact hs settings hsettings
    · rename_i ht
      have htakes : TakesSettings fields := fun h ↦ absurd (ht.symm.trans h) Bool.false_ne_true
      rw [and_iff_right htakes]
      exact loadOccurrences_escapes_iff [] fields
  | null =>
    refine iff_of_false ?_ ?_
    · rintro ⟨e, he, -⟩
      cases he
    · rintro ⟨fields, hf, -⟩
      cases hf
  | _ =>
    refine iff_of_false ?_ ?_
    · rintro ⟨e, he, hr⟩
      cases he
      cases hr
    · rintro ⟨fields, hf, -⟩
      cases hf

/-- A document cannot be opened, and not for want of a file, of a form, or of a markup. -/
def Unopened (f : Format) (tree : Tree) (path : Text) : Prop :=
  Misread f tree path ∨ ∃ v, Stores f tree path v ∧ Unloadable v

variable {f : Format} {tree : Tree} {path : Text}

theorem fault_isReported_iff (e : Fault) :
    (OpenError.fault path e).isReported = false ↔ ∀ message, e ≠ .form message := by
  cases e with
  | form message => exact iff_of_false Bool.noConfusion fun h ↦ h message rfl
  | _ =>
    refine iff_of_true rfl ?_
    rintro message h
    cases h

theorem misread_iff {content : Text} (hread : tree.read path = .ok content) :
    Misread f tree path ↔ ∃ e, f.parse (Text.unifyLines content) = .error e ∧
      (OpenError.fault path e).isReported = false := by
  constructor
  · rintro ⟨content', e, hread', he, hform⟩
    cases hread.symm.trans hread'
    exact ⟨e, he, (fault_isReported_iff e).2 hform⟩
  · rintro ⟨e, he, hr⟩
    exact ⟨content, e, hread, he, (fault_isReported_iff e).1 hr⟩

theorem stores_iff {content : Text} (hread : tree.read path = .ok content) (v : Value) :
    Stores f tree path v ↔ f.parse (Text.unifyLines content) = .ok v := by
  constructor
  · rintro ⟨content', hread', hv⟩
    cases hread.symm.trans hread'
    exact hv
  · exact fun hv ↦ ⟨content, hread, hv⟩

theorem loadFile_escapes_iff (doc : Document) (hfind : ¬(tree.find? path).isNone = true) :
    (∃ e, (doc.loadFile f tree path).2 = some e ∧ e.isReported = false) ↔
      Unopened f tree path := by
  unfold loadFile Unopened
  cases hread : tree.read path with
  | error e =>
    refine iff_of_false ?_ ?_
    · rintro ⟨e', he, hr⟩
      cases he
      exact Tree.reason_ne_nul_of_find? hread hfind (bne_eq_false_iff_eq.1 hr)
    · rintro (⟨content, e', hread', -⟩ | ⟨v, ⟨content, hread', -⟩, -⟩)
      · cases hread.symm.trans hread'
      · cases hread.symm.trans hread'
  | ok content =>
    rw [misread_iff hread]
    simp only [stores_iff hread]
    cases hparse : f.parse (Text.unifyLines content) with
    | error e =>
      constructor
      · rintro ⟨e', he, hr⟩
        cases he
        exact .inl ⟨e, rfl, hr⟩
      · rintro (⟨e', he, hr⟩ | ⟨v, hv, -⟩)
        · cases he
          exact ⟨_, rfl, hr⟩
        · cases hv
    | ok v =>
      have hload : (∃ e, (doc.load v).2.map (OpenError.load path) = some e ∧
          e.isReported = false) ↔ Unloadable v := by
        rw [← load_escapes_iff doc]
        constructor
        · rintro ⟨_, he, hr⟩
          obtain ⟨e, he', rfl⟩ := Option.map_eq_some_iff.1 he
          exact ⟨e, he', hr⟩
        · rintro ⟨e, he, hr⟩
          exact ⟨.load path e, Option.map_eq_some_iff.2 ⟨e, he, rfl⟩, hr⟩
      refine hload.trans ?_
      constructor
      · exact fun h ↦ .inr ⟨v, rfl, h⟩
      · rintro (⟨e, he, -⟩ | ⟨v', hv, h⟩)
        · cases he
        · cases hv
          exact h

theorem stores_ofTexts {texts : List (Text × Value)} (content : Text) {v : Value}
    (hread : tree.read path = .ok content) (hlines : Text.unifyLines content = content)
    (hlookup : texts.lookup content = some v) : Stores (.ofTexts texts) tree path v := by
  refine ⟨content, hread, ?_⟩
  rw [hlines]
  exact Format.parse_ofTexts hlookup

theorem loadFile_of_stores {v : Value} (h : Stores f tree path v) (doc : Document) :
    doc.loadFile f tree path = ((doc.load v).1, (doc.load v).2.map (OpenError.load path)) := by
  obtain ⟨content, hread, hv⟩ := h
  simp only [loadFile, hread, hv]

theorem ofFile_of_stores {v : Value} {doc : Document} (h : Stores f tree path v)
    (hload : empty.load v = (doc, none)) : ofFile f tree path = .ok doc := by
  have hfile := loadFile_of_stores h empty
  rw [hload] at hfile
  obtain ⟨content, hread, -⟩ := h
  have hpath : path.isEmpty = false := by
    cases path with
    | nil => cases hread
    | cons c path => rfl
  simp only [ofFile, hpath, Tree.find?_of_read hread, hfile, Bool.false_eq_true, if_false,
    Option.map_none]

theorem exists_read_of_unopened (h : Unopened f tree path) :
    ∃ content, tree.read path = .ok content := by
  rcases h with ⟨content, e, hread, -⟩ | ⟨v, ⟨content, hread, -⟩, -⟩
  · exact ⟨content, hread⟩
  · exact ⟨content, hread⟩

theorem ofFile_escapes_iff :
    (∃ e, ofFile f tree path = .error e ∧ e.isReported = false) ↔ Unopened f tree path := by
  unfold ofFile
  split
  · rename_i hpath
    refine iff_of_false ?_ fun h ↦ ?_
    · rintro ⟨e, he, -⟩
      cases he
    · obtain ⟨content, hread⟩ := exists_read_of_unopened h
      rw [List.isEmpty_iff.1 hpath] at hread
      cases hread
  · split
    · rename_i hfind
      refine iff_of_false ?_ fun h ↦ ?_
      · rintro ⟨e, he, hr⟩
        cases he
        cases hr
      · obtain ⟨content, hread⟩ := exists_read_of_unopened h
        rw [Tree.find?_of_read hread] at hfind
        cases hfind
    · rename_i hfind
      rw [← loadFile_escapes_iff empty hfind]
      split
      · rename_i doc hload
        rw [hload]
        refine iff_of_false ?_ ?_
        · rintro ⟨e, he, -⟩
          cases he
        · rintro ⟨e, he, -⟩
          cases he
      · rename_i doc e hload
        rw [hload]
        constructor
        · rintro ⟨_, he, hr⟩
          cases he
          exact ⟨e, rfl, hr⟩
        · rintro ⟨_, he, hr⟩
          cases he
          exact ⟨e, rfl, hr⟩

end BookIndex.Document
