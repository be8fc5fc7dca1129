import BookIndex.Document.Basic
import BookIndex.Proofs.Fault
import Mathlib.Data.List.Forall2
import Mathlib.Data.List.TakeWhile

namespace BookIndex.Document

/-- A text is a markup itself, and a mapping has a field for one. -/
def hasMarkup : Value → Bool
  | .text _ => true
  | .mapping fields => fields.any fun field ↦ field.1.asText? == some "markup".toList
  | _ => false

/-- A value gives its text, or another text if it counts as false. -/
def GivesText (v : Value) (default s : Text) : Prop :=
  if v.truthy then v.toText = .ok s else s = default

def GivesPosition (v : Value) (position : Option Text) : Prop :=
  if v.isNull then position = none else ∃ s, v.toText = .ok s ∧ position = some s

/-- The occurrence that an item says: a text is a markup in the main index, and a mapping has the
texts of its fields. -/
inductive Normalizes : Value → Occurrence → Prop
  | text (s : Text) : Normalizes (.text s) ⟨s, [], none, "idx".toList⟩
  | mapping {fields : Value.Fields} {markup : Value} {o : Occurrence} :
      Value.field? fields "markup" = some markup → markup.toText = .ok o.markup →
      GivesText (Value.get fields "plain") [] o.plain →
      GivesPosition (Value.get fields "position") o.position →
      GivesText (Value.get fields "index") "idx".toList o.index → Normalizes (.mapping fields) o

/-- A value has a text, as all have but whole numbers with too many digits, what holds one of them, and
some values of other kinds. -/
def HasText (v : Value) : Prop := ∃ s, v.toText = .ok s

/-- The fields that are read from an item have texts. -/
def HasTexts : Value → Prop
  | .mapping fields =>
    HasText (Value.get fields "markup") ∧
      ((Value.get fields "plain").truthy = true → HasText (Value.get fields "plain")) ∧
      HasText (Value.get fields "position") ∧
      ((Value.get fields "index").truthy = true → HasText (Value.get fields "index"))
  | _ => True

theorem textOr_eq_ok_iff {default : Text} {fields : Value.Fields} {name : String} {s : Text} :
    textOr default fields name = .ok s ↔ GivesText (Value.get fields name) default s := by
  simp only [textOr, GivesText]
  split
  · exact Iff.rfl
  · rw [Except.ok.injEq, eq_comm]

theorem exists_givesText_iff {v : Value} (default : Text) :
    (∃ s, GivesText v default s) ↔ (v.truthy = true → HasText v) := by
  unfold GivesText
  split
  · rename_i hv
    exact ⟨fun h _ ↦ h, fun h ↦ h hv⟩
  · rename_i hv
    exact iff_of_true ⟨default, rfl⟩ fun h ↦ absurd h hv

theorem exists_givesPosition_iff {v : Value} :
    (∃ position, GivesPosition v position) ↔ HasText v := by
  unfold GivesPosition
  split
  · rename_i hv
    cases v with
    | null => exact iff_of_true ⟨none, rfl⟩ ⟨"None".toList, rfl⟩
    | _ => cases hv
  · constructor
    · rintro ⟨-, s, hs, -⟩
      exact ⟨s, hs⟩
    · rintro ⟨s, hs⟩
      exact ⟨some s, s, hs, rfl⟩

theorem toText?_eq_ok_iff {v : Value} {position : Option Text} :
    v.toText? = .ok position ↔ GivesPosition v position := by
  have hmap : (v.toText.map some = .ok position) ↔ ∃ s, v.toText = .ok s ∧ position = some s := by
    cases v.toText with
    | error e =>
      refine iff_of_false ?_ ?_
      · intro h
        cases h
      · rintro ⟨s, hs, -⟩
        cases hs
    | ok s =>
      constructor
      · intro h
        cases h
        exact ⟨s, rfl, rfl⟩
      · rintro ⟨s', hs, rfl⟩
        cases hs
        rfl
  cases v with
  | null =>
    constructor
    · intro h
      cases h
      rfl
    · intro h
      cases h
      rfl
  | _ => exact hmap

theorem occurrence?_eq_ok_iff {v : Value} {o : Occurrence} :
    occurrence? v = some (.ok o) ↔ Normalizes v o := by
  constructor
  · intro h
    cases v with
    | text s =>
      cases h
      exact .text s
    | mapping fields =>
      obtain ⟨markup, hfield, h⟩ := Option.map_eq_some_iff.1 h
      simp only [bind_eq_ok_iff] at h
      obtain ⟨s, hs, plain, hplain, position, hposition, index, hindex, h⟩ := h
      cases h
      exact .mapping hfield hs (textOr_eq_ok_iff.1 hplain) (toText?_eq_ok_iff.1 hposition)
        (textOr_eq_ok_iff.1 hindex)
    | _ => cases h
  · intro h
    cases h with
    | text s => rfl
    | @mapping fields markup _ hfield hs hplain hposition hindex =>
      refine Option.map_eq_some_iff.2 ⟨markup, hfield, ?_⟩
      simp only [bind_eq_ok_iff]
      exact ⟨o.markup, hs, o.plain, textOr_eq_ok_iff.2 hplain, o.position,
        toText?_eq_ok_iff.2 hposition, o.index, textOr_eq_ok_iff.2 hindex, rfl⟩

theorem isSome_occurrence? (v : Value) : (occurrence? v).isSome = hasMarkup v := by
  cases v with
  | text s => rfl
  | mapping fields =>
    rw [occurrence?, Option.isSome_map, Value.field?, Option.isSome_map, List.isSome_find?]
    rfl
  | _ => rfl

theorem exists_normalizes_iff {v : Value} (h : hasMarkup v = true) :
    (∃ o, Normalizes v o) ↔ HasTexts v := by
  cases v with
  | text s => exact iff_of_true ⟨_, .text s⟩ trivial
  | mapping fields =>
    have hsome : (Value.field? fields "markup").isSome = true := by
      rw [← h, ← isSome_occurrence?, occurrence?, Option.isSome_map]
    obtain ⟨markup, hfield⟩ := Option.isSome_iff_exists.1 hsome
    have hget : Value.get fields "markup" = markup := by rw [Value.get, hfield, Option.getD_some]
    have hposition := exists_givesPosition_iff (v := Value.get fields "position")
    rw [HasTexts, hget, ← exists_givesText_iff [], ← hposition, ← exists_givesText_iff "idx".toList]
    constructor
    · rintro ⟨o, ho⟩
      cases ho with
      | mapping hfield' hs hplain hposition hindex =>
        cases hfield.symm.trans hfield'
        exact ⟨⟨o.markup, hs⟩, ⟨o.plain, hplain⟩, ⟨o.position, hposition⟩, ⟨o.index, hindex⟩⟩
    · rintro ⟨⟨s, hs⟩, ⟨plain, hplain⟩, ⟨position, hposition⟩, ⟨index, hindex⟩⟩
      exact ⟨⟨s, plain, position, index⟩, .mapping hfield hs hplain hposition hindex⟩
  | _ => cases h

theorem rightUnique_normalizes : Relator.RightUnique Normalizes := by
  intro v o o' h h'
  have heq := (occurrence?_eq_ok_iff.2 h).symm.trans (occurrence?_eq_ok_iff.2 h')
  exact Except.ok.inj (Option.some.inj heq)

theorem Normalizes.hasTexts {v : Value} {o : Occurrence} (h : Normalizes v o) : HasTexts v := by
  have hmarkup : hasMarkup v = true := by
    rw [← isSome_occurrence?, occurrence?_eq_ok_iff.2 h, Option.isSome_some]
  exact (exists_normalizes_iff hmarkup).1 ⟨o, h⟩

theorem occurrence?_cases (v : Value) :
    (occurrence? v = none ∧ hasMarkup v = false) ∨
    (∃ e, occurrence? v = some (.error e) ∧ hasMarkup v = true ∧ ¬HasTexts v) ∨
      ∃ o, occurrence? v = some (.ok o) ∧ hasMarkup v = true ∧ HasTexts v ∧ Normalizes v o := by
  have hmarkup := isSome_occurrence? v
  cases h : occurrence? v with
  | none => exact .inl ⟨rfl, by rw [← hmarkup, h, Option.isSome_none]⟩
  | some r =>
    rw [h, Option.isSome_some] at hmarkup
    cases r with
    | error e =>
      refine .inr (.inl ⟨e, rfl, hmarkup.symm, fun htexts ↦ ?_⟩)
      obtain ⟨o, ho⟩ := (exists_normalizes_iff hmarkup.symm).2 htexts
      rw [occurrence?_eq_ok_iff.2 ho] at h
      cases h
    | ok o =>
      have ho := occurrence?_eq_ok_iff.1 h
      exact .inr (.inr ⟨o, rfl, hmarkup.symm, ho.hasTexts, ho⟩)

/-- Reading takes the longest beginning in which every item has a markup, if these have texts, and
names the item behind it if there is one. -/
theorem readFrom_takeWhile (number : ℕ) {items : List Value}
    (htexts : ∀ item ∈ items.takeWhile hasMarkup, HasTexts item) :
    List.Forall₂ Normalizes (items.takeWhile hasMarkup) (readFrom number items).1 ∧
      (readFrom number items).2 =
        if (items.takeWhile hasMarkup).length = items.length then none
        else some (.noMarkup (number + (items.takeWhile hasMarkup).length)) := by
  induction items generalizing number with
  | nil => exact ⟨.nil, rfl⟩
  | cons v items ih =>
    rw [readFrom]
    rcases occurrence?_cases v with ⟨h, hv⟩ | ⟨e, -, hv, hnone⟩ | ⟨o, h, hv, -, ho⟩
    · rw [h, List.takeWhile_cons_of_neg (by simp [hv])]
      exact ⟨.nil, rfl⟩
    · rw [List.takeWhile_cons_of_pos hv] at htexts
      exact absurd (htexts v List.mem_cons_self) hnone
    · rw [List.takeWhile_cons_of_pos hv] at htexts ⊢
      obtain ⟨hread, herror⟩ := ih (number + 1) fun item hi ↦ htexts item (List.mem_cons_of_mem v hi)
      rw [h, herror]
      refine ⟨.cons ho hread, ?_⟩
      simp only [List.length_cons, Nat.add_right_cancel_iff, Nat.add_assoc, Nat.add_comm 1]

theorem readFrom_fault_iff (number : ℕ) (items : List Value) :
    (∃ e, (readFrom number items).2 = some (.fault e)) ↔
      ∃ before item after, items = before ++ item :: after ∧
        (∀ v ∈ before, hasMarkup v = true ∧ HasTexts v) ∧
        hasMarkup item = true ∧ ¬HasTexts item := by
  induction items generalizing number with
  | nil =>
    refine iff_of_false ?_ not_exists_first_nil
    rintro ⟨e, he⟩
    cases he
  | cons v items ih =>
    rw [readFrom, exists_first_cons_iff, ← ih (number + 1)]
    rcases occurrence?_cases v with ⟨h, hv⟩ | ⟨e, h, hv, hnone⟩ | ⟨o, h, hv, htexts, -⟩
    · rw [h, hv]
      refine iff_of_false ?_ ?_
      · rintro ⟨e, he⟩
        cases he
      · rintro (⟨hmarkup, -⟩ | ⟨⟨hmarkup, -⟩, -⟩) <;> cases hmarkup
    · rw [h]
      exact iff_of_true ⟨e, rfl⟩ (.inl ⟨hv, hnone⟩)
    · rw [h, or_iff_right fun hbad ↦ hbad.2 htexts, and_iff_right ⟨hv, htexts⟩]

end BookIndex.Document
