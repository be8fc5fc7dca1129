import BookIndex.Proofs.Tex.Recognized

namespace BookIndex.Tex

theorem balanced_append_inj {limit limit' depth : ℕ} {b b' t t' : Text}
    (h : balanced limit depth b = true) (h' : balanced limit' depth b' = true)
    (he : b ++ '}' :: t = b' ++ '}' :: t') : b = b' := by
  induction b generalizing depth b' with
  | nil =>
    cases b' with
    | nil => rfl
    | cons c b' =>
      obtain ⟨rfl, -⟩ := List.cons_eq_cons.1 he
      have hdepth : depth = 0 := by simpa [balanced] using h
      simp [balanced, hdepth] at h'
  | cons c b ih =>
    cases b' with
    | nil =>
      obtain ⟨rfl, -⟩ := List.cons_eq_cons.1 he
      have hdepth : depth = 0 := by simpa [balanced] using h'
      simp [balanced, hdepth] at h
    | cons d b' =>
      obtain ⟨rfl, hrest⟩ := List.cons_eq_cons.1 he
      rw [balanced] at h h'
      split at h
      · rename_i hopen
        rw [if_pos hopen, Bool.and_eq_true] at h'
        rw [Bool.and_eq_true] at h
        rw [ih h.2 h'.2 hrest]
      · rename_i hopen
        rw [if_neg hopen] at h'
        split at h
        · rename_i hclose
          rw [if_pos hclose, Bool.and_eq_true] at h'
          rw [Bool.and_eq_true] at h
          rw [ih h.2 h'.2 hrest]
        · rename_i hclose
          rw [if_neg hclose] at h'
          rw [ih h h' hrest]

/-- The macro with a given body and no option. -/
def plainMacro (body : Text) : Macro := ⟨"index".toList, [], body⟩

theorem plainMacro_wellFormed {body : Text} (h : balanced 1 0 body = true) :
    (plainMacro body).WellFormed := by
  have hname : "index".toList ∈ macroNames := by decide
  exact ⟨hname, .inl rfl, h⟩

theorem ofTail?_plainMacro (s : Text) :
    Macro.ofTail? ("index".toList ++ '{' :: s) = (bodyFrom? false s).map plainMacro := by
  cases h : bodyFrom? false s <;>
    simp [Macro.ofTail?, macroNames, Macro.named?, List.isPrefixOf?, optionLength, h, plainMacro]

theorem count_trim (s : Text) : (Text.trim s).count '\\' = s.count '\\' := by
  obtain ⟨a, b, hs, ha, hb⟩ := Text.exists_trim s
  have hblank : ∀ t : Text, (∀ c ∈ t, Text.isBlank c = true) → t.count '\\' = 0 := by
    intro t ht
    refine List.count_eq_zero.2 fun hmem ↦ ?_
    exact absurd (ht '\\' hmem) (by decide)
  conv_rhs => rw [hs]
  rw [List.count_append, List.count_append, hblank a ha, hblank b hb, Nat.zero_add, Nat.add_zero]

theorem markup_of_occurrence? {source : Text} {line : ℕ} {m : Macro} {o : Occurrence}
    (h : m.occurrence? source line = some o) : o.markup = Text.trim m.body := by
  simp only [Macro.occurrence?, Option.ite_none_left_eq_some] at h
  rw [← Option.some.inj h.2]

theorem ofTail?_of_mem_scan {source first body rest : Text} (hfirst : '\\' ∉ first)
    (hrest : '\\' ∉ rest) {o : Occurrence}
    (ho : o ∈ scan source (first ++ (plainMacro body).write ++ rest))
    (hmarkup : o.markup = Text.trim body) :
    ∃ m, Macro.ofTail? ((plainMacro body).tail ++ rest) = some m ∧
      Text.trim m.body = Text.trim body := by
  obtain ⟨before, after, m, hsplit, hm, -, hfound⟩ := exists_of_mem_scanFrom ho
  have hbody : Text.trim m.body = Text.trim body := by
    rw [← markup_of_occurrence? hfound, hmarkup]
  have hcount : m.body.count '\\' = body.count '\\' := by rw [← count_trim, hbody, count_trim]
  have hafter : m.body.count '\\' ≤ after.count '\\' := by
    have hbodyTail : m.body <:+: m.tail :=
      ⟨m.name ++ m.option ++ ['{'], ['}'], by simp [Macro.tail]⟩
    exact (hbodyTail.trans (ofTail?_eq_some_iff.1 hm).2.isInfix).sublist.count_le '\\'
  have hsource : (first ++ (plainMacro body).write ++ rest).count '\\' = body.count '\\' + 1 := by
    simp [Macro.write, Macro.tail, plainMacro, List.count_eq_zero_of_not_mem hfirst,
      List.count_eq_zero_of_not_mem hrest]
  have hbehind : (before ++ '\\' :: after).count '\\' =
      before.count '\\' + (after.count '\\' + 1) := by
    rw [List.count_append, List.count_cons_self]
  rw [hsplit, hbehind] at hsource
  have hbefore : '\\' ∉ before := List.count_eq_zero.1 (by omega)
  rw [List.append_assoc, Macro.write, List.cons_append] at hsplit
  obtain ⟨-, rfl⟩ := (Text.append_cons_inj hfirst hbefore).1 hsplit
  exact ⟨m, hm, hbody⟩

/-- Behind a text without macros and comments, and before one without macros, a macro is found
exactly if the braces of its body go at most one pair deep, whatever other macros there are in it. -/
theorem markup_mem_scan_iff (source : Text) {first body rest : Text} (hfirst : IsFiller first)
    (hrest : '\\' ∉ rest) (hblank : Text.allBlank body = false) {limit : ℕ}
    (h : balanced limit 0 body = true) :
    (∃ o ∈ scan source (first ++ (plainMacro body).write ++ rest), o.markup = Text.trim body) ↔
      balanced 1 0 body = true := by
  constructor
  · intro hfound
    obtain ⟨o, ho, hmarkup⟩ := hfound
    obtain ⟨m, hm, -⟩ := ofTail?_of_mem_scan hfirst.1 hrest ho hmarkup
    have htail : (plainMacro body).tail ++ rest =
        "index".toList ++ '{' :: (body ++ '}' :: rest) := by
      simp [Macro.tail, plainMacro]
    rw [htail, ofTail?_plainMacro] at hm
    obtain ⟨b, hb, -⟩ := Option.map_eq_some_iff.1 hm
    obtain ⟨hbalanced, after, hafter⟩ := (bodyFrom?_eq_some_iff false).1 hb
    rw [List.append_assoc, List.singleton_append] at hafter
    rwa [← balanced_append_inj hbalanced h hafter]
  · intro hbalanced
    have hcomment := (foldl_next (p := .start) rfl hfirst.2).1
    have hline : (first.foldl Place.next .start).line = first.count '\n' + 1 := by
      rw [(foldl_next rfl hfirst.2).2, Nat.add_comm]
      rfl
    refine ⟨occurrenceAt source (first, plainMacro body), ?_, rfl⟩
    rw [List.append_assoc, scan, scanFrom_filler source .start hfirst.1,
      scanFrom_macro source _ (plainMacro_wellFormed hbalanced), hcomment, hline, occurrence?_eq,
      plainMacro, hblank]
    exact List.mem_append_left _ (by simp)

/-- A body with a macro in it and two pairs of braces in a row. -/
def nestedBody : Text := " A\\is\x7bb\x7d\x7bc\x7d!d".toList

theorem markup_mem_scan_iff_nested : IsFiller ['x', '\n'] ∧ '\\' ∉ ['\x7d'] ∧
    Text.allBlank nestedBody = false ∧ balanced 3 0 nestedBody = true ∧
    ((∃ o ∈ scan [] (['x', '\n'] ++ (plainMacro nestedBody).write ++ ['\x7d']),
      o.markup = Text.trim nestedBody) ↔ balanced 1 0 nestedBody = true) := by
  have hfirst : IsFiller ['x', '\n'] := by
    constructor <;> decide
  have hbalanced : balanced 3 0 nestedBody = true := by decide
  exact ⟨hfirst, by decide, by decide, hbalanced,
    markup_mem_scan_iff [] hfirst (by decide) (by decide) hbalanced⟩

/-- A body with one pair of braces inside of another. -/
def deepBody : Text := "a\x7bb\x7bc\x7d\x7d".toList

theorem scan_of_deepBody : '%' ∉ deepBody ∧ Text.allBlank deepBody = false ∧
    balanced 2 0 deepBody = true ∧ IsFiller [] ∧
    ¬∃ o ∈ scan [] ([] ++ (plainMacro deepBody).write ++ []), o.markup = Text.trim deepBody := by
  have hnone : scan [] ([] ++ (plainMacro deepBody).write ++ []) = [] := by decide
  rw [hnone]
  exact ⟨by decide, by decide, by decide, ⟨nofun, nofun⟩, nofun⟩

end BookIndex.Tex
