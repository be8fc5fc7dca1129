import BookIndex.Proofs.Document.Items

namespace BookIndex.Document

/-- The settings that a value gives: what counts as false gives none. -/
def GivesSettings (v : Value) (settings : Value.Fields) : Prop :=
  if v.truthy then v = .mapping settings else settings = []

/-- The items that a value lists: what counts as false lists none. -/
def ListsItems (v : Value) (items : List Value) : Prop :=
  if v.truthy then v = .list items else items = []

theorem members_of_listsItems {v : Value} {items : List Value} (h : ListsItems v items) :
    members v = .ok items := by
  unfold ListsItems at h
  unfold members
  split at h
  · rename_i hv
    rw [if_pos hv, h]
    rfl
  · rename_i hv
    rw [if_neg hv, h]

theorem loadOccurrences_of_listsItems {fields : Value.Fields} {items : List Value}
    (h : ListsItems (Value.get fields "occurrences") items) (settings : Value.Fields) :
    load.loadOccurrences settings fields =
      (⟨(readFrom 1 items).1, settings⟩, (readFrom 1 items).2) := by
  rw [load.loadOccurrences, members_of_listsItems h]

theorem load_of_givesSettings (doc : Document) {fields settings : Value.Fields}
    (h : GivesSettings (Value.get fields "settings") settings) :
    doc.load (.mapping fields) = load.loadOccurrences settings fields := by
  unfold GivesSettings at h
  rw [load]
  cases hv : (Value.get fields "settings").truthy with
  | true =>
    rw [hv, if_pos rfl] at h
    simp only [h]
  | false =>
    rw [hv, if_neg Bool.false_ne_true] at h
    simp only [h]

/-- Nothing, what is no mapping, and a mapping with settings that are none leave a document as it is.
From any other mapping that lists its occurrences a document takes the settings and the occurrences
before the first item without a markup. Loading fails exactly if there is such an item, and names it
by its number, counted from one. -/
theorem load_takes_beginning (doc : Document) (v : Value) :
    (v = .null → doc.load v = (doc, none)) ∧
    (v ≠ .null → (∀ fields, v ≠ .mapping fields) → doc.load v = (doc, some .notMapping)) ∧
    ∀ fields, v = .mapping fields →
      ((Value.get fields "settings").truthy = true →
        (∀ settings, Value.get fields "settings" ≠ .mapping settings) →
        doc.load v = (doc, some .settingsNotMapping)) ∧
      ∀ settings items, GivesSettings (Value.get fields "settings") settings →
        ListsItems (Value.get fields "occurrences") items →
        let k := (items.takeWhile hasMarkup).length
        (∀ item ∈ items.take k, HasTexts item) →
        ∃ occurrences : List Occurrence,
          List.Forall₂ Normalizes (items.take k) occurrences ∧
          doc.load v = (⟨occurrences, settings⟩,
            if k = items.length then none else some (.noMarkup (k + 1))) := by
  refine ⟨?_, ?_, ?_⟩
  · rintro rfl
    rfl
  · intro hnull hmapping
    cases v with
    | null => exact absurd rfl hnull
    | mapping fields => exact absurd rfl (hmapping fields)
    | _ => rfl
  · rintro fields rfl
    refine ⟨fun htruthy hsettings ↦ ?_, fun settings items hsettings hitems ↦ ?_⟩
    · rw [load, htruthy]
      split
      · rename_i settings htrue hs
        exact absurd hs (hsettings settings)
      · rfl
      · rename_i hfalse
        cases hfalse
    · intro k htexts
      have htake : items.take k = items.takeWhile hasMarkup :=
        (List.prefix_iff_eq_take.1 (List.takeWhile_prefix hasMarkup)).symm
      rw [htake] at htexts ⊢
      obtain ⟨hread, herror⟩ := readFrom_takeWhile 1 htexts
      refine ⟨(readFrom 1 items).1, hread, ?_⟩
      rw [load_of_givesSettings doc hsettings, loadOccurrences_of_listsItems hitems, herror,
        Nat.add_comm 1]

/-- The fourth item has a position, but no markup. -/
def partlyMarked : List Value :=
  [.ofFields [("markup".toList, .text "LyX@\\LyX".toList), ("plain".toList, .text "LyX".toList),
      ("position".toList, .text "intro.tex:12".toList), ("index".toList, .text "names".toList)],
    .ofFields [("index".toList, .null), ("markup".toList, .int 7), ("plain".toList, .bool true),
      ("position".toList, .int 0)],
    .text "A|(".toList, .ofFields [("position".toList, .text ['B'])], .text ['C']]

def partlyReadable : Value.Fields :=
  [(.text "occurrences".toList, .list partlyMarked), (.text "settings".toList, .text [])]

def readBefore : Document :=
  ⟨[⟨['X'], [], some ['1'], "names".toList⟩], [(.text "heading".toList, .int 1)]⟩

def partlyRead : List Occurrence :=
  [⟨"LyX@\\LyX".toList, "LyX".toList, some "intro.tex:12".toList, "names".toList⟩,
    ⟨"7".toList, "True".toList, some "0".toList, "idx".toList⟩,
    ⟨"A|(".toList, [], none, "idx".toList⟩]

theorem load_takes_beginning_fourth :
    GivesSettings (Value.get partlyReadable "settings") [] ∧
    ListsItems (Value.get partlyReadable "occurrences") partlyMarked ∧
    (∀ item ∈ partlyMarked.take 3, HasTexts item) ∧
    readBefore.load (.mapping partlyReadable) =
      (⟨partlyRead, []⟩, some (.noMarkup 4)) := by
  have hsettings : GivesSettings (Value.get partlyReadable "settings") [] := by
    rw [GivesSettings, if_neg (by decide)]
  have hitems : ListsItems (Value.get partlyReadable "occurrences") partlyMarked := by
    rw [ListsItems, if_pos (by decide)]
    rfl
  have hread : List.Forall₂ Normalizes (partlyMarked.take 3) partlyRead :=
    .cons (occurrence?_eq_ok_iff.1 rfl)
      (.cons (occurrence?_eq_ok_iff.1 rfl) (.cons (occurrence?_eq_ok_iff.1 rfl) .nil))
  have htexts : ∀ item ∈ partlyMarked.take 3, HasTexts item :=
    ((List.forall₂_and_left _ _).1 (hread.imp fun item o h ↦ ⟨h.hasTexts, h⟩)).1
  obtain ⟨occurrences, hread', hload⟩ :=
    ((load_takes_beginning readBefore (.mapping partlyReadable)).2.2 partlyReadable rfl).2 []
      partlyMarked hsettings hitems htexts
  have hoccurrences : partlyRead = occurrences :=
    List.right_unique_forall₂' rightUnique_normalizes hread hread'
  rw [← hoccurrences] at hload
  exact ⟨hsettings, hitems, htexts, hload⟩

end BookIndex.Document
