import BookIndex.Proofs.Tex.Recognized
import BookIndex.Proofs.Tex.Stretches
import BookIndex.Proofs.Text.Blanks

namespace BookIndex.Tex

/-- In the last line of a text stands a percent sign without a backslash before it. -/
def EndsInComment (s : Text) : Prop :=
  ∃ a b, s = a ++ '%' :: b ∧ a.getLast? ≠ some '\\' ∧ '\n' ∉ b

theorem endsInComment_append_singleton (s : Text) (c : Char) : EndsInComment (s ++ [c]) ↔
    c ≠ '\n' ∧ (EndsInComment s ∨ c = '%' ∧ s.getLast? ≠ some '\\') := by
  constructor
  · intro h
    obtain ⟨a, b, hs, hlast, hline⟩ := h
    cases b using List.reverseRecOn with
    | nil =>
      obtain ⟨rfl, hc⟩ := List.append_inj' hs rfl
      obtain rfl : c = '%' := List.singleton_inj.1 hc
      exact ⟨by decide, .inr ⟨rfl, hlast⟩⟩
    | append_singleton b d =>
      rw [List.mem_append, not_or, List.mem_singleton] at hline
      rw [← List.cons_append, ← List.append_assoc] at hs
      obtain ⟨rfl, hc⟩ := List.append_inj' hs rfl
      obtain rfl : c = d := List.singleton_inj.1 hc
      exact ⟨Ne.symm hline.2, .inl ⟨a, b, rfl, hlast, hline.1⟩⟩
  · intro h
    obtain ⟨hc, ⟨a, b, rfl, hlast, hline⟩ | ⟨rfl, hlast⟩⟩ := h
    · exact ⟨a, b ++ [c], by simp, hlast, by simp [hline, Ne.symm hc]⟩
    · exact ⟨s, [], rfl, hlast, List.not_mem_nil⟩

theorem comment_iff_endsInComment (s : Text) :
    (s.foldl Place.next .start).comment = true ↔ EndsInComment s := by
  induction s using List.reverseRecOn with
  | nil =>
    have hnone : ¬EndsInComment [] := by
      intro h
      obtain ⟨a, b, hs, -⟩ := h
      simp at hs
    simp [hnone, Place.start]
  | append_singleton s c ih =>
    have hprev : (s.foldl Place.next .start).prev = s.getLast? := by
      rw [foldl_next_prev]
      exact Option.or_none
    rw [endsInComment_append_singleton, List.foldl_append, List.foldl_cons, List.foldl_nil, ← ih,
      Place.next]
    by_cases hc : c = '\n'
    · simp [hc]
    · simp [hc, Place.commented, hprev]

instance : DecidablePred EndsInComment := fun s ↦
  decidable_of_iff _ (comment_iff_endsInComment s)

/-- A macro with the text before it counts if it starts outside of comments and has a body that is
not blank. -/
def Counts (p : Text × Macro) : Prop := ¬EndsInComment p.1 ∧ Text.allBlank p.2.body = false

instance : DecidablePred Counts := fun p ↦
  inferInstanceAs (Decidable (¬EndsInComment p.1 ∧ Text.allBlank p.2.body = false))

/-- A macro stands in a text behind the text before it. -/
def StandsIn (content : Text) (p : Text × Macro) : Prop :=
  p.2.WellFormed ∧ p.1 ++ p.2.write <+: content

/-- Macros of a text from left to right, behind some of its beginning. None stands inside of
another, and every macro there starts in one of them. -/
structure Divides (content front : Text) (passed : List (Text × Macro)) : Prop where
  stands : ∀ p ∈ passed, StandsIn content p ∧ front <+: p.1
  apart : passed.Pairwise fun p q ↦ p.1 ++ p.2.write <+: q.1
  complete : ∀ q, StandsIn content q → front.length ≤ q.1.length →
    ∃ p ∈ passed, p.1.length ≤ q.1.length ∧ q.1.length < (p.1 ++ p.2.write).length

theorem length_lt_append_write (s : Text) (m : Macro) : s.length < (s ++ m.write).length := by
  rw [List.length_append, Macro.write, List.length_cons]
  omega

theorem StandsIn.length_lt {content : Text} {p : Text × Macro} (h : StandsIn content p) :
    p.1.length < content.length :=
  Nat.lt_of_lt_of_le (length_lt_append_write p.1 p.2) h.2.length_le

theorem StandsIn.of_length_eq {front s : Text} {p : Text × Macro} (h : StandsIn (front ++ s) p)
    (hlength : p.1.length = front.length) : p.1 = front ∧ p.2.write <+: s := by
  obtain ⟨rest, hrest⟩ := h.2
  rw [List.append_assoc] at hrest
  obtain ⟨hfront, hs⟩ := List.append_inj hrest hlength
  exact ⟨hfront, rest, hs⟩

theorem divides_nil (content : Text) : Divides content content [] where
  stands := List.forall_mem_nil _
  apart := .nil
  complete q hq hlength := by
    have hlt := hq.length_lt
    omega

namespace Divides

variable {content front : Text} {passed : List (Text × Macro)}

theorem cons {p : Text × Macro} (hp : StandsIn content p)
    (h : Divides content (p.1 ++ p.2.write) passed) : Divides content p.1 (p :: passed) where
  stands := by
    refine List.forall_mem_cons.2 ⟨⟨hp, List.prefix_refl _⟩, fun q hq ↦ ?_⟩
    obtain ⟨hstands, hfront⟩ := h.stands q hq
    exact ⟨hstands, (List.prefix_append _ _).trans hfront⟩
  apart := List.pairwise_cons.2 ⟨fun q hq ↦ (h.stands q hq).2, h.apart⟩
  complete q hq hlength := by
    by_cases hinside : q.1.length < (p.1 ++ p.2.write).length
    · exact ⟨p, List.mem_cons_self, hlength, hinside⟩
    · obtain ⟨r, hr, hbetween⟩ := h.complete q hq (Nat.le_of_not_lt hinside)
      exact ⟨r, List.mem_cons_of_mem p hr, hbetween⟩

theorem of_append {c : Char} (h : Divides content (front ++ [c]) passed)
    (hnone : ∀ q, StandsIn content q → q.1.length ≠ front.length) :
    Divides content front passed where
  stands q hq := by
    obtain ⟨hstands, hfront⟩ := h.stands q hq
    exact ⟨hstands, (List.prefix_append _ _).trans hfront⟩
  apart := h.apart
  complete q hq hlength := by
    apply h.complete q hq
    have hne := hnone q hq
    rw [List.length_append, List.length_singleton]
    omega

theorem length_lt (h : Divides content front passed) :
    passed.Pairwise fun p q ↦ p.1.length < q.1.length :=
  h.apart.imp fun {p _} hpq ↦ Nat.lt_of_lt_of_le (length_lt_append_write p.1 p.2) hpq.length_le

theorem count_le (h : Divides content front passed) (c : Char) :
    passed.Pairwise fun p q ↦ p.1.count c ≤ q.1.count c :=
  h.apart.imp fun {p _} hpq ↦
    ((List.prefix_append p.1 p.2.write).trans hpq).sublist.count_le c

end Divides

theorem occurrence?_foldl_next (source front : Text) (m : Macro) :
    (if (front.foldl Place.next .start).comment then none
      else m.occurrence? source (front.foldl Place.next .start).line) =
      if Counts (front, m) then some (occurrenceAt source (front, m)) else none := by
  have hline : (front.foldl Place.next .start).line = front.count '\n' + 1 := by
    rw [foldl_next_line, Nat.add_comm]
    rfl
  rw [hline, occurrence?_eq]
  simp only [comment_iff_endsInComment, Counts]
  by_cases hcomment : EndsInComment front
  · simp [hcomment]
  · by_cases hblank : Text.allBlank m.body = true <;> simp [hcomment, hblank]

theorem exists_divides (source front : Text) (skip : ℕ) (s : Text) :
    ∃ passed, Divides (front ++ s) (front ++ s.take skip) passed ∧
      scanFrom source (front.foldl Place.next .start) skip s =
        (passed.filter (Counts ·)).map (occurrenceAt source) := by
  induction s generalizing front skip with
  | nil =>
    refine ⟨[], ?_, ?_⟩
    · rw [List.take_nil]
      exact divides_nil _
    · rw [scanFrom]
      rfl
  | cons c s ih =>
    have hcontent : front ++ [c] ++ s = front ++ c :: s := List.append_assoc _ _ _
    have hplace : (front ++ [c]).foldl Place.next .start =
        (front.foldl Place.next .start).next c := by
      rw [List.foldl_append]
      rfl
    have hih := ih (front ++ [c])
    rw [hcontent, hplace] at hih
    cases skip with
    | succ skip =>
      obtain ⟨passed, hdivides, hscan⟩ := hih skip
      rw [List.append_assoc] at hdivides
      exact ⟨passed, hdivides, hscan⟩
    | zero =>
      rw [List.take_zero, List.append_nil]
      -- a macro here is the first one that is passed, and the scan goes on behind it
      by_cases hmacro : ∃ m, c = '\\' ∧ Macro.ofTail? s = some m
      · obtain ⟨m, rfl, hm⟩ := hmacro
        obtain ⟨hwell, htail⟩ := ofTail?_eq_some_iff.1 hm
        obtain ⟨passed, hdivides, hscan⟩ := hih m.tail.length
        have hwrite : front ++ ['\\'] ++ s.take m.tail.length = front ++ m.write := by
          rw [← List.prefix_iff_eq_take.1 htail, List.append_assoc]
          rfl
        have hstands : StandsIn (front ++ '\\' :: s) (front, m) := by
          refine ⟨hwell, ?_⟩
          rw [List.prefix_append_right_inj]
          exact List.cons_prefix_cons.2 ⟨rfl, htail⟩
        rw [hwrite] at hdivides
        refine ⟨(front, m) :: passed, hdivides.cons hstands, ?_⟩
        rw [scanFrom, if_pos rfl, hm, commented_backslash]
        simp only [occurrence?_foldl_next, hscan, List.filter_cons, decide_eq_true_eq]
        split <;> rfl
      · obtain ⟨passed, hdivides, hscan⟩ := hih 0
        rw [List.take_zero, List.append_nil] at hdivides
        refine ⟨passed, hdivides.of_append ?_, ?_⟩
        · intro q hq hlength
          obtain ⟨-, hwrite⟩ := hq.of_length_eq hlength
          obtain ⟨hc, htail⟩ := List.cons_prefix_cons.1 hwrite
          exact hmacro ⟨q.2, hc.symm, ofTail?_eq_some_iff.2 ⟨hq.1, htail⟩⟩
        · rw [← hscan, scanFrom]
          split
          · rename_i hc
            cases hm : Macro.ofTail? s with
            | none => rfl
            | some m => exact absurd ⟨m, hc, hm⟩ hmacro
          · rfl

theorem balanced_no_brace_append {limit depth : ℕ} {s t : Text}
    (hs : ∀ c ∈ s, c ≠ '{' ∧ c ≠ '}') : balanced limit depth (s ++ t) = balanced limit depth t := by
  induction s with
  | nil => rfl
  | cons c s ih =>
    obtain ⟨hopen, hclose⟩ := hs c List.mem_cons_self
    rw [List.cons_append, balanced, if_neg hopen, if_neg hclose]
    exact ih fun d hd ↦ hs d (List.mem_cons_of_mem c hd)

theorem balanced_append_of_no_brace {limit depth : ℕ} {s t : Text}
    (ht : ∀ c ∈ t, c ≠ '{' ∧ c ≠ '}') : balanced limit depth (s ++ t) = balanced limit depth s := by
  induction s generalizing depth with
  | nil =>
    rw [List.nil_append, ← List.append_nil t]
    exact balanced_no_brace_append ht
  | cons c s ih => simp only [List.cons_append, balanced, ih]

theorem balanced_trim (limit depth : ℕ) (s : Text) :
    balanced limit depth (Text.trim s) = balanced limit depth s := by
  have hbrace : ∀ c, Text.isBlank c = true → c ≠ '{' ∧ c ≠ '}' := by
    intro c hc
    constructor
    · exact Text.ne_of_isBlank (by decide) hc
    · exact Text.ne_of_isBlank (by decide) hc
  obtain ⟨a, b, hs, ha, hb⟩ := Text.exists_trim s
  conv_rhs => rw [hs]
  rw [balanced_append_of_no_brace fun c hc ↦ hbrace c (hb c hc),
    balanced_no_brace_append fun c hc ↦ hbrace c (ha c hc)]

theorem indexOf_ne_nil (name option : Text) : indexOf name option ≠ [] := by
  unfold indexOf
  split
  · split
    · decide
    · split <;> decide
  · dsimp only
    split
    · decide
    · rename_i hindex
      intro h
      exact hindex (List.isEmpty_iff.2 h)

theorem occurrenceAt_sound (source : Text) {p : Text × Macro} (hwell : p.2.WellFormed)
    (hcounts : Counts p) :
    (occurrenceAt source p).markup ≠ [] ∧
      Text.trim (occurrenceAt source p).markup = (occurrenceAt source p).markup ∧
      balanced 1 0 (occurrenceAt source p).markup = true ∧ (occurrenceAt source p).index ≠ [] := by
  refine ⟨?_, Text.trim_trim _, ?_, indexOf_ne_nil _ _⟩
  · intro hnil
    have hblank := (Text.trim_eq_nil_iff _).1 hnil
    rw [hcounts.2] at hblank
    cases hblank
  · exact (balanced_trim 1 0 p.2.body).trans hwell.body

/-- In any text, the occurrences are those of the macros that count among the macros that divide it:
written macros in separate places, from left to right. Each has a markup that is not empty, trimmed
and balanced, and the name of an index, and the lines of their positions never go back. -/
theorem scan_sound (source content : Text) : ∃ passed, Divides content [] passed ∧
    scan source content = (passed.filter (Counts ·)).map (occurrenceAt source) ∧
    (passed.filter (Counts ·)).Pairwise
      (fun p q ↦ p.1.length < q.1.length ∧ p.1.count '\n' ≤ q.1.count '\n') ∧
    ∀ o ∈ scan source content,
      o.markup ≠ [] ∧ Text.trim o.markup = o.markup ∧ balanced 1 0 o.markup = true ∧
        o.index ≠ [] := by
  obtain ⟨passed, hdivides, hscan⟩ := exists_divides source [] 0 content
  rw [List.nil_append, List.take_zero, List.append_nil] at hdivides
  have hfound : scan source content = (passed.filter (Counts ·)).map (occurrenceAt source) := hscan
  refine ⟨passed, hdivides, hfound, ?_, ?_⟩
  · apply List.Pairwise.filter
    exact hdivides.length_lt.and (hdivides.count_le '\n')
  · intro o ho
    rw [hfound] at ho
    obtain ⟨p, hp, rfl⟩ := List.mem_map.1 ho
    obtain ⟨hmem, hcounts⟩ := List.mem_filter.1 hp
    exact occurrenceAt_sound source (hdivides.stands p hmem).1.1 (of_decide_eq_true hcounts)

example : (scan [] "\\is\x7ba \\il\x7bb\x7d\x7d% \\is\x7bc\x7d\n\\in\x7bd\x7d\\is\x7be".toList).map
    (·.markup) = ["a \\il\x7bb\x7d".toList, "d".toList] := by decide

end BookIndex.Tex
