import BookIndex.Proofs.Fault
import BookIndex.Settings

namespace BookIndex.Settings

def Field.holdsText : Field → Bool
  | .useIndices | .dryRun => false
  | _ => true

/-- A field of a document names a setting that holds a text, and its value has none. -/
def LacksText (field : Value × Value) (e : Fault) : Prop :=
  ∃ f, Field.ofKey? field.1 = some f ∧ f.holdsText = true ∧ field.2.isNull = false ∧
    field.2.toText = .error e

theorem set_eq_error_iff (s : Settings) (f : Field) (v : Value) (e : Fault) :
    s.set f v = .error e ↔ f.holdsText = true ∧ v.isNull = false ∧ v.toText = .error e := by
  have htext : (if v.isNull then .ok s else v.toText.map fun text ↦ s.setText text f) = .error e ↔
      v.isNull = false ∧ v.toText = .error e := by
    cases v.isNull with
    | true =>
      refine iff_of_false ?_ fun h ↦ nomatch h.1
      intro h
      cases h
    | false => cases v.toText <;> simp [Except.map]
  cases f with
  | useIndices | dryRun =>
    refine iff_of_false ?_ fun h ↦ nomatch h.1
    intro h
    cases h
  | _ => exact htext.trans (and_iff_right rfl).symm

theorem setNamed_eq_error_iff (s : Settings) (field : Value × Value) (e : Fault) :
    s.setNamed field = .error e ↔ LacksText field e := by
  unfold setNamed LacksText
  cases Field.ofKey? field.1 with
  | none =>
    refine iff_of_false ?_ ?_
    · intro h
      cases h
    · rintro ⟨f, hf, -⟩
      cases hf
  | some f =>
    rw [set_eq_error_iff]
    constructor
    · exact fun h ↦ ⟨f, rfl, h⟩
    · rintro ⟨_, hf, h⟩
      cases hf
      exact h

theorem ofFields_eq_error_iff (fields : Value.Fields) (e : Fault) :
    ofFields fields = .error e ↔ ∃ before field after, fields = before ++ field :: after ∧
      (∀ b ∈ before, ∀ e, ¬LacksText b e) ∧ LacksText field e := by
  unfold ofFields
  generalize default = s
  induction fields generalizing s with
  | nil =>
    refine iff_of_false ?_ not_exists_first_nil
    intro h
    cases h
  | cons first fields ih =>
    rw [List.foldlM_cons, exists_first_cons_iff, ← setNamed_eq_error_iff s]
    cases h : s.setNamed first with
    | error e' =>
      rw [or_iff_left fun hgood ↦ hgood.1 e' ((setNamed_eq_error_iff s first e').1 h)]
      exact Iff.rfl
    | ok s' =>
      have hgood (e : Fault) : ¬LacksText first e := by
        rw [← setNamed_eq_error_iff s, h]
        rintro he
        cases he
      rw [or_iff_right nofun, and_iff_right hgood]
      exact ih s'

end BookIndex.Settings
