import BookIndex.Proofs.Document.LoadedPart
import BookIndex.Proofs.Document.Loading
import BookIndex.Proofs.Files.Writing
import Mathlib.Data.List.Induction
import Mathlib.Data.Nat.Digits.Defs

namespace BookIndex

theorem Text.ofInt_ne_nil (n : Int) : Text.ofInt n ≠ [] := by
  cases n with
  | ofNat n => exact Nat.toDigits_ne_nil
  | negSucc n => exact List.cons_ne_nil _ _

theorem Decimal.text_ne_nil (d : Decimal) : d.text ≠ [] := by
  have hpositional (digits : Text) (point : Int) : positional digits point ≠ [] := by
    unfold positional
    split <;> simp
  have hscientific (digits : Text) (exponent : Int) : scientific digits exponent ≠ [] := by
    simp [scientific]
  unfold text
  dsimp only
  split
  · exact List.cons_ne_nil _ _
  · split
    · exact hpositional _ _
    · exact hscientific _ _

theorem Value.toText_ne_nil {v : Value} (h : v.truthy = true) : v.toText ≠ .ok [] := by
  have hcons {x : Except Fault Text} {f : Text → Text} (hf : ∀ s, f s ≠ []) : x.map f ≠ .ok [] := by
    cases x with
    | error e => exact nofun
    | ok s => exact fun hs ↦ hf s (Except.ok.inj hs)
  cases v with
  | null => cases h
  | bool b => cases b <;> exact nofun
  | int n =>
    change intText n ≠ .ok []
    unfold intText
    split
    · exact fun hn ↦ Text.ofInt_ne_nil n (Except.ok.inj hn)
    · exact nofun
  | decimal d => exact fun hd ↦ d.text_ne_nil (Except.ok.inj hd)
  | text s =>
    intro hs
    cases hs
    cases h
  | list items =>
    change shown (list items) ≠ .ok []
    rw [shown]
    exact hcons fun s ↦ List.cons_ne_nil _ _
  | mapping fields =>
    change shown (mapping fields) ≠ .ok []
    rw [shown]
    exact hcons fun s ↦ List.cons_ne_nil _ _
  | other look members => exact look.text_ne_nil h

namespace Document

open Files

theorem GivesText.ne_nil {v : Value} {default s : Text} (h : GivesText v default s)
    (hdefault : default ≠ []) : s ≠ [] := by
  unfold GivesText at h
  split at h
  · rename_i hv
    rintro rfl
    exact Value.toText_ne_nil hv h
  · rwa [h]

/-- Every occurrence names its index. -/
def Indexed (doc : Document) : Prop := ∀ o ∈ doc.occurrences, o.index ≠ []

theorem Normalizes.index_ne_nil {v : Value} {o : Occurrence} (h : Normalizes v o) :
    o.index ≠ [] := by
  cases h with
  | text s => exact List.cons_ne_nil _ _
  | mapping _ _ _ _ hindex => exact hindex.ne_nil (List.cons_ne_nil _ _)

theorem index_ne_nil_of_mem_readFrom {number : Nat} {vs : List Value} {o : Occurrence}
    (h : o ∈ (readFrom number vs).1) : o.index ≠ [] := by
  induction vs generalizing number with
  | nil => cases h
  | cons v vs ih =>
    rw [readFrom] at h
    split at h
    · cases h
    · cases h
    · rename_i o' hv
      rcases List.mem_cons.1 h with rfl | h
      · exact (occurrence?_eq_ok_iff.1 hv).index_ne_nil
      · exact ih h

theorem indexed_empty : empty.Indexed := nofun

variable {doc : Document}

theorem Indexed.add (h : doc.Indexed) {o : Occurrence} (ho : o.index ≠ []) :
    (doc.add o).Indexed := by
  intro o' hmem
  rcases List.mem_append.1 hmem with hmem | hmem
  · exact h o' hmem
  · rwa [List.mem_singleton.1 hmem]

theorem indexed_loadOccurrences (settings fields : Value.Fields) :
    (load.loadOccurrences settings fields).1.Indexed := by
  unfold load.loadOccurrences
  cases members (Value.get fields "occurrences") with
  | error e => exact nofun
  | ok vs => exact fun o ho ↦ index_ne_nil_of_mem_readFrom ho

theorem Indexed.load (h : doc.Indexed) (v : Value) : (doc.load v).1.Indexed := by
  cases v with
  | mapping fields =>
    rw [Document.load]
    split
    · exact indexed_loadOccurrences _ fields
    · exact h
    · exact indexed_loadOccurrences [] fields
  | _ => exact h

/-- The documents that loading values, whether it succeeds or fails, and adding occurrences make of
the empty one. -/
inductive Reachable : Document → Prop
  | empty : Reachable .empty
  | load {doc : Document} (h : Reachable doc) (v : Value) : Reachable (doc.load v).1
  | add {doc : Document} (h : Reachable doc) {o : Occurrence} (ho : o.index ≠ []) :
      Reachable (doc.add o)

theorem Reachable.loadFile (h : Reachable doc) (f : Format) (tree : Tree) (path : Text) :
    Reachable (doc.loadFile f tree path).1 := by
  unfold Document.loadFile
  cases tree.read path with
  | error e => exact h
  | ok content =>
    cases hv : f.parse (Text.unifyLines content) with
    | error e => simpa only [hv] using h
    | ok v => simpa only [hv] using h.load v

theorem Reachable.indexed (h : Reachable doc) : doc.Indexed := by
  induction h with
  | empty => exact indexed_empty
  | load _ v ih => exact ih.load v
  | add _ ho ih => exact ih.add ho

theorem load_settings (settings : Value.Fields) :
    (empty.load (.ofFields [("settings".toList, .mapping settings)])).1 = ⟨[], settings⟩ := by
  cases settings with
  | nil => rfl
  | cons field settings => rfl

theorem reachable_of_indexed (h : doc.Indexed) : Reachable doc := by
  obtain ⟨occs, settings⟩ := doc
  induction occs using List.reverseRecOn with
  | nil =>
    rw [← load_settings settings]
    exact .load .empty _
  | append_singleton occs o ih =>
    have hocc : o.index ≠ [] := h o (by simp)
    have hrest : Indexed ⟨occs, settings⟩ := fun o' ho' ↦ h o' (List.mem_append_left _ ho')
    exact .add (ih hrest) hocc

def reread (o : Occurrence) : Occurrence :=
  { o with index := if o.index.isEmpty then mainIndex else o.index }

theorem reread_eq_iff (o : Occurrence) : reread o = o ↔ o.index ≠ [] := by
  obtain ⟨markup, plain, position, index⟩ := o
  cases index <;> simp [reread, mainIndex]

theorem occurrence?_occurrenceValue (o : Occurrence) :
    occurrence? (occurrenceValue o) = some (.ok (reread o)) := by
  rw [occurrence?_eq_ok_iff]
  obtain ⟨markup, plain, position, index⟩ := o
  have hmarkup : Value.field? [(.text "markup".toList, .text markup),
      (.text "plain".toList, .text plain), (.text "position".toList, position.elim .null .text),
      (.text "index".toList, .text index)] "markup" = some (.text markup) := rfl
  refine .mapping hmarkup rfl ?_ ?_ ?_
  · cases plain <;> rfl
  · cases position with
    | none => rfl
    | some position => exact ⟨position, rfl, rfl⟩
  · cases index <;> rfl

theorem readFrom_occurrenceValue (number : Nat) (occs : List Occurrence) :
    readFrom number (occs.map occurrenceValue) = (occs.map reread, none) := by
  induction occs generalizing number with
  | nil => rfl
  | cons o occs ih => simp [readFrom, occurrence?_occurrenceValue, ih]

theorem load_toValue (other doc : Document) :
    other.load doc.toValue = (⟨doc.occurrences.map reread, doc.settings⟩, none) := by
  obtain ⟨occs, settings⟩ := doc
  have hload {fields : Value.Fields} (hsettings : GivesSettings (Value.get fields "settings") settings)
      (hitems : ListsItems (Value.get fields "occurrences") (occs.map occurrenceValue)) :
      other.load (.mapping fields) = (⟨occs.map reread, settings⟩, none) := by
    rw [load_of_givesSettings other hsettings, loadOccurrences_of_listsItems hitems,
      readFrom_occurrenceValue]
  have hitems {fields : Value.Fields}
      (h : Value.get fields "occurrences" = .list (occs.map occurrenceValue)) :
      ListsItems (Value.get fields "occurrences") (occs.map occurrenceValue) := by
    rw [h]
    cases occs with
    | nil => exact rfl
    | cons o occs => exact rfl
  cases settings with
  | nil => exact hload rfl (hitems rfl)
  | cons field settings => exact hload rfl (hitems rfl)

theorem map_reread_eq_iff (occs : List Occurrence) :
    occs.map reread = occs ↔ ∀ o ∈ occs, o.index ≠ [] := by
  calc
    occs.map reread = occs ↔ occs.map reread = occs.map id := by rw [List.map_id]
    _ ↔ ∀ o ∈ occs, reread o = o := List.map_inj_left
    _ ↔ ∀ o ∈ occs, o.index ≠ [] := forall₂_congr fun o _ ↦ reread_eq_iff o

/-- What a format keeps survives a save exactly if it is a document that loading and adding have made:
read into any document, it gives the same occurrences and settings. -/
theorem loadFile_save_iff {f : Format} {tree tree' : Tree} {path : Text}
    (kept : f.Keeps doc.toValue) (hsave : doc.save f tree path = .ok tree')
    (hsink : tree.locate path ≠ .ok Tree.sink) (other : Document) :
    other.loadFile f tree' path = (doc, none) ↔ Reachable doc := by
  have hstores : Stores f tree' path doc.toValue := ⟨_, Tree.read_of_write hsave hsink, kept⟩
  have hload : other.loadFile f tree' path =
      (⟨doc.occurrences.map reread, doc.settings⟩, none) := by
    rw [loadFile_of_stores hstores, load_toValue, Option.map_none]
  have hdoc : (⟨doc.occurrences.map reread, doc.settings⟩ : Document) = doc ↔ doc.Indexed := by
    rw [Indexed, ← map_reread_eq_iff]
    cases doc
    simp
  rw [hload, Prod.mk.injEq, and_iff_left rfl, hdoc]
  exact ⟨reachable_of_indexed, Reachable.indexed⟩

def halfReadable : Text :=
  ("settings:\n  heading: 1\noccurrences:\n- A\n" ++
    "- markup: 7\n  plain: false\n  position: 3\n  index: null\n- null\n- B\n").toList

def halfValue : Value :=
  .ofFields [("settings".toList, .ofFields [("heading".toList, .int 1)]),
    ("occurrences".toList, .list [.text "A".toList,
      .ofFields [("markup".toList, .int 7), ("plain".toList, .bool false),
        ("position".toList, .int 3), ("index".toList, .null)],
      .null, .text "B".toList])]

def halfTree : Tree := .ofList [("d.yaml".toList, .file halfReadable)]

def halfRead : Document :=
  (empty.load halfValue).1.add ⟨"C".toList, [], some [], "names".toList⟩

def halfSaved : Text :=
  ("occurrences:\n- markup: A\n  plain: ''\n  position: null\n  index: idx\n" ++
    "- markup: '7'\n  plain: ''\n  position: '3'\n  index: idx\n" ++
    "- markup: C\n  plain: ''\n  position: ''\n  index: names\nsettings:\n  heading: 1\n").toList

def halfFormat : Format := .ofTexts [(halfReadable, halfValue), (halfSaved, halfRead.toValue)]

theorem loadFile_save_halfRead :
    (empty.loadFile halfFormat halfTree "d.yaml".toList).2 =
      some (.load "d.yaml".toList (.noMarkup 3)) ∧
    halfRead = (empty.loadFile halfFormat halfTree "d.yaml".toList).1.add
      ⟨"C".toList, [], some [], "names".toList⟩ ∧
    halfRead.occurrences =
      [⟨"A".toList, [], none, mainIndex⟩, ⟨"7".toList, [], some ['3'], mainIndex⟩,
        ⟨"C".toList, [], some [], "names".toList⟩] ∧
    halfFormat.Keeps halfRead.toValue ∧
    halfTree.locate "e.yaml".toList ≠ .ok Tree.sink ∧
    ∃ tree', halfRead.save halfFormat halfTree "e.yaml".toList = .ok tree' ∧
      tree'.read "e.yaml".toList = .ok halfSaved ∧
      empty.loadFile halfFormat tree' "e.yaml".toList = (halfRead, none) := by
  have hne : (halfSaved == halfReadable) = false := by decide +kernel
  have hprint : halfFormat.print halfRead.toValue = halfSaved := by decide +kernel
  have kept : halfFormat.Keeps halfRead.toValue := by
    have hlines : Text.unifyLines halfSaved = halfSaved := by decide +kernel
    rw [Format.Keeps, hprint, hlines]
    apply Format.parse_ofTexts
    rw [List.lookup_cons, hne]
    exact List.lookup_cons_self
  have hstores : Stores halfFormat halfTree "d.yaml".toList halfValue :=
    stores_ofTexts halfReadable (by decide +kernel) (by decide +kernel)
      List.lookup_cons_self
  have hsink : halfTree.locate "e.yaml".toList ≠ .ok Tree.sink := by decide +kernel
  have hreach : Reachable halfRead := .add (.load .empty halfValue) (List.cons_ne_nil _ _)
  obtain ⟨tree', hsave⟩ : ∃ tree', halfRead.save halfFormat halfTree "e.yaml".toList = .ok tree' :=
    ⟨_, rfl⟩
  refine ⟨?_, ?_, by decide +kernel, kept, hsink, tree', hsave, ?_,
    (loadFile_save_iff kept hsave hsink empty).2 hreach⟩
  · rw [loadFile_of_stores hstores]
    decide +kernel
  · rw [loadFile_of_stores hstores]
    rfl
  · rw [Tree.read_of_write hsave hsink, hprint]

end Document
end BookIndex
