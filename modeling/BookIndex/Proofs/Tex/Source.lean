import BookIndex.Proofs.Tex.Macro
import BookIndex.Proofs.Text.Lemmas

namespace BookIndex.Tex

/-- A text between macros, in which neither a macro nor a comment can start. -/
def IsFiller (s : Text) : Prop := '\\' ∉ s ∧ '%' ∉ s

/-- A text, and macros each with the text that follows it. -/
structure Source where
  first : Text
  parts : List (Macro × Text)

namespace Source

def partsText (parts : List (Macro × Text)) : Text := parts.flatMap fun p ↦ p.1.write ++ p.2

def text (s : Source) : Text := s.first ++ partsText s.parts

def placed : Text → List (Macro × Text) → List (Text × Macro)
  | _, [] => []
  | before, p :: parts => (before, p.1) :: placed (before ++ (p.1.write ++ p.2)) parts

def macros (s : Source) : List (Text × Macro) := placed s.first s.parts

end Source

/-- The occurrence of a macro with a body that is not blank, in a named source or in one without a
name. -/
def occurrenceAt (source : Text) (p : Text × Macro) : Occurrence where
  markup := Text.trim p.2.body
  plain := plain (Text.trim p.2.body)
  position :=
    let line := Text.ofNat (p.1.count '\n' + 1)
    some (if source = [] then line else source ++ ':' :: line)
  index := indexOf p.2.name p.2.option

theorem scanFrom_skip (source : Text) (p : Place) (s t : Text) :
    scanFrom source p s.length (s ++ t) = scanFrom source (s.foldl Place.next p) 0 t := by
  induction s generalizing p with
  | nil => rfl
  | cons c s ih => exact ih (p.next c)

theorem scanFrom_filler (source : Text) (p : Place) {s : Text} (h : '\\' ∉ s) (t : Text) :
    scanFrom source p 0 (s ++ t) = scanFrom source (s.foldl Place.next p) 0 t := by
  induction s generalizing p with
  | nil => rfl
  | cons c s ih =>
    rw [List.mem_cons, not_or] at h
    rw [List.cons_append, scanFrom, if_neg (Ne.symm h.1)]
    exact ih (p.next c) h.2

theorem scanFrom_macro (source : Text) (p : Place) {m : Macro} (h : m.WellFormed) (t : Text) :
    scanFrom source p 0 (m.write ++ t) =
      (if p.comment then none else m.occurrence? source p.line).toList ++
        scanFrom source (m.write.foldl Place.next p) 0 t := by
  have hcomment : p.commented '\\' = p.comment := by simp [Place.commented]
  rw [Macro.write, List.cons_append, scanFrom, if_pos rfl, ofTail?_append h, hcomment]
  simp only [scanFrom_skip]
  rfl

theorem foldl_next {p : Place} (hp : p.comment = false) {s : Text} (h : '%' ∉ s) :
    (s.foldl Place.next p).comment = false ∧
      (s.foldl Place.next p).line = p.line + s.count '\n' := by
  induction s generalizing p with
  | nil => exact ⟨hp, rfl⟩
  | cons c s ih =>
    rw [List.mem_cons, not_or] at h
    have hcomment : (p.next c).comment = false := by
      unfold Place.next Place.commented
      split
      · rfl
      · simp [hp, Ne.symm h.1]
    have hline : (p.next c).line = p.line + if c = '\n' then 1 else 0 := by
      unfold Place.next
      split <;> rfl
    obtain ⟨hrest, hlines⟩ := ih hcomment h.2
    refine ⟨hrest, ?_⟩
    rw [List.foldl_cons, hlines, hline, List.count_cons]
    simp only [beq_iff_eq]
    omega

theorem occurrence?_eq (source before : Text) (m : Macro) :
    m.occurrence? source (before.count '\n' + 1) =
      if Text.allBlank m.body then none else some (occurrenceAt source (before, m)) := by
  have hblank : (Text.trim m.body).isEmpty = Text.allBlank m.body := by
    rw [Bool.eq_iff_iff, List.isEmpty_iff, Text.trim_eq_nil_iff]
  simp only [Macro.occurrence?, hblank, occurrenceAt, positionText, List.isEmpty_iff]

theorem scanFrom_parts (source : Text) {p : Place} {before : Text} (hp : p.comment = false)
    (hline : p.line = before.count '\n' + 1) {parts : List (Macro × Text)}
    (h : ∀ q ∈ parts, q.1.WellFormed ∧ '%' ∉ q.1.write ∧ IsFiller q.2) :
    scanFrom source p 0 (Source.partsText parts) =
      ((Source.placed before parts).filter fun q ↦ !Text.allBlank q.2.body).map
        (occurrenceAt source) := by
  induction parts generalizing p before with
  | nil => rfl
  | cons q parts ih =>
    obtain ⟨hwell, hwrite, hfiller⟩ := h q List.mem_cons_self
    have hplain : '%' ∉ q.1.write ++ q.2 := by simp [hwrite, hfiller.2]
    obtain ⟨hcomment, hlines⟩ := foldl_next hp hplain
    have hbehind : ((q.1.write ++ q.2).foldl Place.next p).line =
        (before ++ (q.1.write ++ q.2)).count '\n' + 1 := by
      have hcount : (before ++ (q.1.write ++ q.2)).count '\n' =
          before.count '\n' + (q.1.write ++ q.2).count '\n' := List.count_append
      rw [hlines, hline, hcount]
      omega
    have hrest := ih hcomment hbehind fun r hr ↦ h r (List.mem_cons_of_mem q hr)
    rw [List.foldl_append] at hrest
    rw [Source.partsText, List.flatMap_cons, List.append_assoc, scanFrom_macro source p hwell,
      scanFrom_filler source _ hfiller.1, hp, hline, occurrence?_eq]
    rw [Source.partsText] at hrest
    rw [hrest, Source.placed, List.filter_cons]
    cases Text.allBlank q.1.body <;> rfl

/-- A source of well-formed macros between texts without macros and comments has one occurrence for
each macro with a body that is not blank, in their order. -/
theorem scan_source (source : Text) (s : Source) (hfirst : IsFiller s.first)
    (h : ∀ p ∈ s.parts, p.1.WellFormed ∧ '%' ∉ p.1.option ∧ '%' ∉ p.1.body ∧ IsFiller p.2) :
    scan source s.text =
      (s.macros.filter fun p ↦ !Text.allBlank p.2.body).map (occurrenceAt source) := by
  have hnames : ∀ n ∈ macroNames, '%' ∉ n := by decide
  have hparts : ∀ p ∈ s.parts, p.1.WellFormed ∧ '%' ∉ p.1.write ∧ IsFiller p.2 := by
    intro p hp
    obtain ⟨hwell, hoption, hbody, hfiller⟩ := h p hp
    refine ⟨hwell, ?_, hfiller⟩
    simp [Macro.write, Macro.tail, hnames _ hwell.name, hoption, hbody]
  obtain ⟨hcomment, hline⟩ := foldl_next (p := .start) rfl hfirst.2
  rw [scan, Source.text, scanFrom_filler source .start hfirst.1]
  refine scanFrom_parts source hcomment ?_ hparts
  rw [hline, Nat.add_comm]
  rfl

def nestedSource : Source where
  first := ['a', '\n']
  parts :=
    [(⟨"index".toList, "[\\il\x7bx\x7d\n]".toList, "A \\sindex\x7bb\x7d\n!c".toList⟩, ['\n']),
      (⟨"isi".toList, [], [' ', '\n']⟩, []),
      (⟨"ili".toList, [], ['b']⟩, [' ', ']'])]

theorem scan_source_nested : IsFiller nestedSource.first ∧
    (∀ p ∈ nestedSource.parts,
      p.1.WellFormed ∧ '%' ∉ p.1.option ∧ '%' ∉ p.1.body ∧ IsFiller p.2) ∧
    scan ['s'] nestedSource.text =
      (nestedSource.macros.filter fun p ↦ !Text.allBlank p.2.body).map
        (occurrenceAt ['s']) := by
  have hfirst : IsFiller nestedSource.first := by
    constructor <;> decide
  have hparts : ∀ p ∈ nestedSource.parts,
      p.1.WellFormed ∧ '%' ∉ p.1.option ∧ '%' ∉ p.1.body ∧ IsFiller p.2 := by
    refine List.forall_mem_cons.2 ⟨?_, List.forall_mem_cons.2 ⟨?_, List.forall_mem_singleton.2 ?_⟩⟩
    · exact ⟨⟨by decide, .inr ⟨"\\il\x7bx\x7d\n".toList, by decide, by decide⟩, by decide⟩,
        by decide, by decide, by decide, by decide⟩
    · exact ⟨⟨by decide, .inl rfl, by decide⟩, by decide, by decide, by decide, by decide⟩
    · exact ⟨⟨by decide, .inl rfl, by decide⟩, by decide, by decide, by decide, by decide⟩
  exact ⟨hfirst, hparts, scan_source ['s'] nestedSource hfirst hparts⟩

end BookIndex.Tex
