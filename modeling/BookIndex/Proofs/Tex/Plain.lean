import BookIndex.Proofs.Text.Blanks
import BookIndex.Tex.Plain

namespace BookIndex.Tex

/-- A character that belongs to no command, group or escape in front of it or behind it. -/
structure IsSeam (c : Char) : Prop where
  not_letter : Text.isLatinLetter c = false
  ne_star : c ≠ '*'
  ne_bracket : c ≠ '['
  ne_backslash : c ≠ '\\'
  not_grouping : isGrouping c = false
  not_escapable : isEscapable c = false
  ne_tie : c ≠ '~'

/-- A character that has a meaning in an index entry. -/
def isSign (c : Char) : Bool := c == '!' || c == '@' || c == '|' || c == '"'

theorem isSign_iff {c : Char} : isSign c = true ↔ c = '!' ∨ c = '@' ∨ c = '|' ∨ c = '"' := by
  simp [isSign, or_assoc]

theorem isSeam_of_isSign {c : Char} (h : isSign c = true) : IsSeam c := by
  rcases isSign_iff.1 h with rfl | rfl | rfl | rfl <;> constructor <;> decide

theorem isBlank_of_isSign {c : Char} (h : isSign c = true) : Text.isBlank c = false := by
  rcases isSign_iff.1 h with rfl | rfl | rfl | rfl <;> decide

theorem isSeam_of_isBlank {c : Char} (h : Text.isBlank c = true) : IsSeam c := by
  have hne {d : Char} (hd : Text.isBlank d = false) : c ≠ d := Text.ne_of_isBlank hd h
  have hletter : Text.isLatinLetter c = false := by
    have hapart : Text.blankRanges.all (fun r ↦ r.2 < 65 || 122 < r.1) = true := by decide
    obtain ⟨r, hr, hfirst, hlast⟩ := Text.Ranges.exists_of_has h
    have hout := List.all_eq_true.1 hapart r hr
    simp only [Bool.or_eq_true, decide_eq_true_eq] at hout
    simp only [Text.isLatinLetter, Bool.or_eq_false_iff, Bool.and_eq_false_iff,
      decide_eq_false_iff_not, Char.le_def, UInt32.le_iff_toNat_le]
    change (¬97 ≤ c.toNat ∨ ¬c.toNat ≤ 122) ∧ (¬65 ≤ c.toNat ∨ ¬c.toNat ≤ 90)
    omega
  have hescapable : isEscapable c = false := by
    have hsigns : "#$%&_\x7b\x7d".toList.all (!Text.isBlank ·) = true := by decide
    rw [isEscapable, Bool.eq_false_iff, Ne, List.contains_iff_mem]
    intro hmem
    have hblank := List.all_eq_true.1 hsigns c hmem
    rw [h] at hblank
    cases hblank
  have hgrouping : isGrouping c = false := by
    simp [isGrouping, hne (d := '{') (by decide), hne (d := '}') (by decide),
      hne (d := '$') (by decide)]
  exact ⟨hletter, hne (by decide), hne (by decide), hne (by decide), hgrouping, hescapable,
    hne (by decide)⟩

theorem optionLength_of_head? {s : Text} (h : s.head? ≠ some '[') : optionLength s = 0 := by
  unfold optionLength
  split
  · exact absurd rfl h
  · rfl

def suffixLength (s : Text) : ℕ :=
  let star := if s.head? = some '*' then 1 else 0
  star + optionLength (s.drop star)

theorem commandLength_eq (s : Text) : commandLength s =
    if (s.takeWhile Text.isLatinLetter).isEmpty then 0
    else (s.takeWhile Text.isLatinLetter).length +
      suffixLength (s.dropWhile Text.isLatinLetter) := by
  have hdrop : s.drop (s.takeWhile Text.isLatinLetter).length =
      s.dropWhile Text.isLatinLetter := by
    have hname := List.takeWhile_prefix Text.isLatinLetter (l := s)
    have happend : s.takeWhile Text.isLatinLetter ++
        s.drop (s.takeWhile Text.isLatinLetter).length =
          s.takeWhile Text.isLatinLetter ++ s.dropWhile Text.isLatinLetter := by
      rw [List.prefix_iff_eq_append.1 hname, List.takeWhile_append_dropWhile]
    exact List.append_cancel_left happend
  simp only [commandLength, suffixLength, hdrop, Nat.add_assoc]

theorem suffixLength_star (s : Text) : suffixLength ('*' :: s) = 1 + optionLength s := rfl

theorem suffixLength_of_ne {s : Text} (hstar : s.head? ≠ some '*') (hopen : s.head? ≠ some '[') :
    suffixLength s = 0 := by
  have hoption : optionLength (s.drop 0) = 0 := optionLength_of_head? hopen
  simp only [suffixLength, if_neg hstar, hoption]

theorem head?_append_cons_ne {c d : Char} (hcd : c ≠ d) {s : Text} (hs : d ∉ s) (t : Text) :
    (s ++ c :: t).head? ≠ some d := by
  cases s with
  | nil => simpa using hcd
  | cons e s => simpa using Ne.symm (List.ne_of_not_mem_cons hs)

theorem head?_ne {d : Char} {s : Text} (hs : d ∉ s) : s.head? ≠ some d :=
  fun h ↦ hs (List.mem_of_head? h)

theorem suffixLength_le {s : Text} (hs : '[' ∉ s) : suffixLength s ≤ s.length := by
  by_cases hstar : s.head? = some '*'
  · obtain ⟨t, rfl⟩ := List.head?_eq_some_iff.1 hstar
    rw [suffixLength_star, optionLength_of_head? (head?_ne (List.not_mem_of_not_mem_cons hs)),
      List.length_cons]
    omega
  · rw [suffixLength_of_ne hstar (head?_ne hs)]
    exact Nat.zero_le _

theorem commandLength_le {s : Text} (hs : '[' ∉ s) : commandLength s ≤ s.length := by
  rw [commandLength_eq]
  split
  · exact Nat.zero_le _
  · have hrest : '[' ∉ s.dropWhile Text.isLatinLetter := fun h ↦
      hs ((List.dropWhile_sublist _).mem h)
    have hle := suffixLength_le hrest
    have hlength := congrArg List.length
      (List.takeWhile_append_dropWhile (p := Text.isLatinLetter) (l := s))
    rw [List.length_append] at hlength
    omega

section

variable {c : Char} (hc : IsSeam c)

include hc

theorem suffixLength_append_cons {s : Text} (hs : '[' ∉ s) (t : Text) :
    suffixLength (s ++ c :: t) = suffixLength s := by
  by_cases hstar : s.head? = some '*'
  · obtain ⟨u, rfl⟩ := List.head?_eq_some_iff.1 hstar
    have hu := List.not_mem_of_not_mem_cons hs
    rw [List.cons_append, suffixLength_star, suffixLength_star,
      optionLength_of_head? (head?_append_cons_ne hc.ne_bracket hu t),
      optionLength_of_head? (head?_ne hu)]
  · have hstar' : (s ++ c :: t).head? ≠ some '*' := by
      cases s with
      | nil => simpa using hc.ne_star
      | cons d s => exact hstar
    rw [suffixLength_of_ne hstar (head?_ne hs),
      suffixLength_of_ne hstar' (head?_append_cons_ne hc.ne_bracket hs t)]

theorem commandLength_append_cons {s : Text} (hs : '[' ∉ s) (t : Text) :
    commandLength (s ++ c :: t) = commandLength s := by
  have hstop : (c :: t).takeWhile Text.isLatinLetter = [] := by simp [hc.not_letter]
  have hgo : (c :: t).dropWhile Text.isLatinLetter = c :: t := by simp [hc.not_letter]
  have hname : (s ++ c :: t).takeWhile Text.isLatinLetter = s.takeWhile Text.isLatinLetter := by
    rw [List.takeWhile_append, hstop, List.append_nil]
    split
    · rename_i hall
      exact ((List.takeWhile_prefix _).eq_of_length hall).symm
    · rfl
  have hrest : (s ++ c :: t).dropWhile Text.isLatinLetter =
      s.dropWhile Text.isLatinLetter ++ c :: t := by
    rw [List.dropWhile_append, hgo]
    split
    · rename_i hempty
      rw [List.isEmpty_iff.1 hempty, List.nil_append]
    · rfl
  have hbracket : '[' ∉ s.dropWhile Text.isLatinLetter := fun h ↦
    hs ((List.dropWhile_sublist _).mem h)
  rw [commandLength_eq, commandLength_eq, hname, hrest, suffixLength_append_cons hc hbracket]

theorem dropCommandsFrom_append_cons {skip : ℕ} {s : Text} (hskip : skip ≤ s.length)
    (hs : '[' ∉ s) (t : Text) :
    dropCommandsFrom skip (s ++ c :: t) = dropCommandsFrom skip s ++ c :: dropCommands t := by
  induction s generalizing skip with
  | nil =>
    obtain rfl : skip = 0 := Nat.le_zero.1 hskip
    rw [List.nil_append, dropCommandsFrom.eq_3, if_neg hc.ne_backslash]
    rfl
  | cons d s ih =>
    have hrest := List.not_mem_of_not_mem_cons hs
    have hzero := ih (Nat.zero_le _) hrest
    cases skip with
    | succ skip => exact ih (Nat.le_of_succ_le_succ hskip) hrest
    | zero =>
      rw [List.cons_append, dropCommandsFrom, dropCommandsFrom, commandLength_append_cons hc hrest]
      split
      · cases hlength : commandLength s with
        | zero => exact congrArg (d :: ·) hzero
        | succ n => exact ih (hlength ▸ commandLength_le hrest) hrest
      · exact congrArg (d :: ·) hzero

theorem dropCommands_append_cons {s : Text} (hs : '[' ∉ s) (t : Text) :
    dropCommands (s ++ c :: t) = dropCommands s ++ c :: dropCommands t :=
  dropCommandsFrom_append_cons hc (Nat.zero_le _) hs t

theorem dropGrouping_append_cons (s t : Text) :
    dropGrouping (s ++ c :: t) = dropGrouping s ++ c :: dropGrouping t := by
  have hrest : dropGroupingFrom (some c) t = dropGrouping t := by
    cases t with
    | nil => rfl
    | cons d t => simp [dropGrouping, dropGroupingFrom, hc.ne_backslash]
  have key (prev : Option Char) :
      dropGroupingFrom prev (s ++ c :: t) = dropGroupingFrom prev s ++ c :: dropGrouping t := by
    induction s generalizing prev with
    | nil => simp [dropGroupingFrom, hc.not_grouping, hrest]
    | cons d s ih =>
      rw [List.cons_append, dropGroupingFrom, dropGroupingFrom, ih]
      split <;> rfl
  exact key none

theorem unescape_cons (t : Text) : unescape (c :: t) = c :: unescape t := by
  cases t with
  | nil => rfl
  | cons d t => simp [unescape, hc.ne_backslash]

theorem unescape_append_cons (s t : Text) :
    unescape (s ++ c :: t) = unescape s ++ c :: unescape t := by
  fun_induction unescape s with
  | case1 => exact unescape_cons hc t
  | case2 d => simp [unescape, hc.not_escapable, unescape_cons hc]
  | case3 d e s h ih =>
    rw [List.cons_append, List.cons_append, unescape, if_pos h, ih]
    rfl
  | case4 d e s h ih =>
    rw [List.cons_append, List.cons_append, unescape, if_neg h, ← List.cons_append, ih]
    rfl

end

def bare (s : Text) : Text := (unescape (dropGrouping (dropCommands s))).map untie

theorem bare_append_cons {c : Char} (hc : IsSeam c) {s : Text} (hs : '[' ∉ s) (t : Text) :
    bare (s ++ c :: t) = bare s ++ c :: bare t := by
  have hc' : untie c = c := if_neg hc.ne_tie
  rw [bare, dropCommands_append_cons hc hs, dropGrouping_append_cons hc, unescape_append_cons hc,
    List.map_append, List.map_cons, hc']
  rfl

theorem dropCommandsFrom_sublist (skip : ℕ) (s : Text) : (dropCommandsFrom skip s).Sublist s := by
  fun_induction dropCommandsFrom skip s with
  | case1 => exact List.Sublist.refl _
  | case2 _ c s ih => exact ih.cons c
  | case3 s _ ih => exact ih.cons_cons '\\'
  | case4 s n _ ih => exact ih.cons '\\'
  | case5 c s _ ih => exact ih.cons_cons c

theorem dropGroupingFrom_sublist (prev : Option Char) (s : Text) :
    (dropGroupingFrom prev s).Sublist s := by
  induction s generalizing prev with
  | nil => exact List.Sublist.refl _
  | cons c s ih =>
    rw [dropGroupingFrom]
    split
    · exact (ih _).cons c
    · exact (ih _).cons_cons c

theorem unescape_sublist (s : Text) : (unescape s).Sublist s := by
  fun_induction unescape s with
  | case1 => exact List.Sublist.refl _
  | case2 c => exact List.Sublist.refl _
  | case3 c d s _ ih => exact (ih.cons_cons d).cons c
  | case4 c d s _ ih => exact ih.cons_cons c

theorem mem_bare {s : Text} {c : Char} (h : c ∈ bare s) : c ∈ s ∨ c = ' ' := by
  have hsublist : (unescape (dropGrouping (dropCommands s))).Sublist s :=
    ((unescape_sublist _).trans (dropGroupingFrom_sublist none _)).trans
      (dropCommandsFrom_sublist 0 s)
  obtain ⟨d, hd, rfl⟩ := List.mem_map.1 h
  rw [untie]
  split
  · exact .inr rfl
  · exact .inl (hsublist.mem hd)

theorem collapseFrom_append_cons {c : Char} (hc : isSpace c = false) (inRun : Bool) (s t : Text) :
    collapseFrom inRun (s ++ c :: t) = collapseFrom inRun s ++ c :: collapse t := by
  induction s generalizing inRun with
  | nil => simp [collapseFrom, hc, collapse]
  | cons d s ih =>
    simp only [List.cons_append, collapseFrom, ih]
    split
    · split <;> rfl
    · rfl

theorem mem_collapseFrom {inRun : Bool} {s : Text} {c : Char} (h : c ∈ collapseFrom inRun s) :
    c ∈ s ∨ c = ' ' := by
  induction s generalizing inRun with
  | nil => cases h
  | cons d s ih =>
    have hrest {inRun : Bool} (hs : c ∈ collapseFrom inRun s) : c ∈ d :: s ∨ c = ' ' :=
      (ih hs).imp_left (List.mem_cons_of_mem d)
    rw [collapseFrom] at h
    split at h
    · split at h
      · exact hrest h
      · rcases List.mem_cons.1 h with hc | hs
        · exact .inr hc
        · exact hrest hs
    · rcases List.mem_cons.1 h with hc | hs
      · exact .inl (hc ▸ List.mem_cons_self)
      · exact hrest hs

/-- The text of some markup before it is trimmed. -/
def text (s : Text) : Text := collapse (bare s)

theorem isSpace_of_isSign {c : Char} (h : isSign c = true) : isSpace c = false := by
  rcases isSign_iff.1 h with rfl | rfl | rfl | rfl <;> rfl

theorem text_append_cons {c : Char} (hc : isSign c = true) {s : Text} (hs : '[' ∉ s) (t : Text) :
    text (s ++ c :: t) = text s ++ c :: text t := by
  rw [text, bare_append_cons (isSeam_of_isSign hc) hs]
  exact collapseFrom_append_cons (isSpace_of_isSign hc) false _ _

theorem mem_text {s : Text} {c : Char} (h : c ∈ text s) : c ∈ s ∨ c = ' ' := by
  rcases mem_collapseFrom h with hbare | hspace
  · exact mem_bare hbare
  · exact .inr hspace

theorem filter_text_of_no_sign {s : Text} (hs : ∀ c ∈ s, isSign c = false) :
    (text s).filter isSign = [] := by
  rw [List.filter_eq_nil_iff]
  intro c hc
  rcases mem_text hc with hmem | rfl
  · rw [hs c hmem]
    exact Bool.false_ne_true
  · decide

theorem filter_text {s : Text} (hs : '[' ∉ s) : (text s).filter isSign = s.filter isSign := by
  -- the text in front of the first sign grows with the induction
  have key : ∀ a : Text, '[' ∉ a → (∀ c ∈ a, isSign c = false) →
      (text (a ++ s)).filter isSign = s.filter isSign := by
    induction s with
    | nil =>
      intro a _ ha
      rw [List.append_nil, List.filter_nil]
      exact filter_text_of_no_sign ha
    | cons c s ih =>
      intro a hbracket ha
      rw [List.mem_cons, not_or] at hs
      cases hc : isSign c with
      | true =>
        rw [text_append_cons hc hbracket, List.filter_append, filter_text_of_no_sign ha,
          List.filter_cons_of_pos hc, List.filter_cons_of_pos hc]
        exact congrArg (c :: ·) (ih hs.2 [] List.not_mem_nil (List.forall_mem_nil _))
      | false =>
        have hnext := ih hs.2 (a ++ [c]) (by simp [hbracket, hs.1])
          (List.forall_mem_append.2 ⟨ha, List.forall_mem_singleton.2 hc⟩)
        rw [List.append_assoc] at hnext
        rw [List.filter_cons_of_neg (by simp [hc])]
        exact hnext
  exact key [] List.not_mem_nil (List.forall_mem_nil _)

theorem filter_plain {s : Text} (hs : '[' ∉ s) : (plain s).filter isSign = s.filter isSign := by
  have hsigns {t : Text} (ht : ∀ c ∈ t, Text.isBlank c = true) : t.filter isSign = [] := by
    rw [List.filter_eq_nil_iff]
    intro c hc hsign
    have hblank := ht c hc
    rw [isBlank_of_isSign hsign] at hblank
    cases hblank
  obtain ⟨a, b, htext, ha, hb⟩ := Text.exists_trim (text s)
  rw [← filter_text hs, htext, List.filter_append, List.filter_append, hsigns ha, hsigns hb,
    List.append_nil]
  rfl

theorem trim_collapseFrom (inRun : Bool) (s : Text) :
    Text.trim (collapseFrom inRun s) = Text.trim (collapse s) := by
  cases inRun with
  | false => rfl
  | true =>
    cases s with
    | nil => rfl
    | cons c s =>
      have hspace : ∀ d ∈ [' '], Text.isBlank d = true := List.forall_mem_singleton.2 (by decide)
      rw [collapse, collapseFrom, collapseFrom]
      split
      · exact (Text.trim_blanks_append hspace _).symm
      · rfl

section

variable {b : Text} (hb : ∀ c ∈ b, Text.isBlank c = true)

include hb

theorem bare_blanks_append (s : Text) : bare (b ++ s) = b ++ bare s := by
  induction b with
  | nil => rfl
  | cons c b ih =>
    have hc := isSeam_of_isBlank (hb c List.mem_cons_self)
    have hcons : bare (c :: (b ++ s)) = c :: bare (b ++ s) :=
      bare_append_cons hc List.not_mem_nil (b ++ s)
    rw [List.cons_append, hcons, ih fun d hd ↦ hb d (List.mem_cons_of_mem c hd)]
    rfl

theorem bare_append_blanks {s : Text} (hs : '[' ∉ s) : bare (s ++ b) = bare s ++ b := by
  cases b with
  | nil => rw [List.append_nil, List.append_nil]
  | cons c b =>
    have hrest : bare (b ++ []) = b ++ bare [] :=
      bare_blanks_append (fun d hd ↦ hb d (List.mem_cons_of_mem c hd)) []
    have hnil : bare [] = [] := rfl
    rw [List.append_nil, hnil, List.append_nil] at hrest
    rw [bare_append_cons (isSeam_of_isBlank (hb c List.mem_cons_self)) hs, hrest]

theorem trim_collapseFrom_blanks_append (inRun : Bool) (s : Text) :
    Text.trim (collapseFrom inRun (b ++ s)) = Text.trim (collapse s) := by
  induction b generalizing inRun with
  | nil => exact trim_collapseFrom inRun s
  | cons c b ih =>
    have hrest (inRun : Bool) := ih (fun d hd ↦ hb d (List.mem_cons_of_mem c hd)) inRun
    have hcons (d : Char) (hd : Text.isBlank d = true) (inRun : Bool) :
        Text.trim (d :: collapseFrom inRun (b ++ s)) = Text.trim (collapse s) := by
      rw [← hrest inRun]
      exact Text.trim_blanks_append (List.forall_mem_singleton.2 hd) _
    rw [List.cons_append, collapseFrom]
    split
    · split
      · exact hrest true
      · exact hcons ' ' (by decide) true
    · exact hcons c (hb c List.mem_cons_self) false

theorem trim_collapseFrom_append_blanks (inRun : Bool) (s : Text) :
    Text.trim (collapseFrom inRun (s ++ b)) = Text.trim (collapseFrom inRun s) := by
  have hblank (inRun : Bool) : ∀ c ∈ collapseFrom inRun b, Text.isBlank c = true := by
    intro c hc
    rcases mem_collapseFrom hc with hmem | rfl
    · exact hb c hmem
    · decide
  have key : ∃ inRun', collapseFrom inRun (s ++ b) =
      collapseFrom inRun s ++ collapseFrom inRun' b := by
    induction s generalizing inRun with
    | nil => exact ⟨inRun, rfl⟩
    | cons c s ih =>
      rw [List.cons_append, collapseFrom, collapseFrom]
      split
      · obtain ⟨inRun', hs⟩ := ih true
        refine ⟨inRun', ?_⟩
        rw [hs]
        split <;> rfl
      · obtain ⟨inRun', hs⟩ := ih false
        exact ⟨inRun', congrArg (c :: ·) hs⟩
  obtain ⟨inRun', hs⟩ := key
  rw [hs, Text.trim_append_blanks (hblank inRun')]

end

theorem plain_trim {s : Text} (hs : '[' ∉ s) : plain (Text.trim s) = plain s := by
  obtain ⟨a, b, htrim, ha, hb⟩ := Text.exists_trim s
  have hmiddle : '[' ∉ Text.trim s := by
    intro h
    apply hs
    rw [htrim]
    simp [h]
  symm
  calc
    plain s = Text.trim (collapse (bare (a ++ (Text.trim s ++ b)))) := by
      rw [← List.append_assoc, ← htrim]
      rfl
    _ = Text.trim (collapse (bare (Text.trim s) ++ b)) := by
      rw [bare_blanks_append ha, bare_append_blanks hb hmiddle]
      exact trim_collapseFrom_blanks_append ha false _
    _ = plain (Text.trim s) := trim_collapseFrom_append_blanks hb false _

end BookIndex.Tex
