import BookIndex.Proofs.Markup.Classification

namespace BookIndex.Markup.Command

/-- A text in which nothing is escaped and no range marker stands behind a bar. -/
structure Inert (s : Text) : Prop where
  no_backslash : '\\' ∉ s
  no_opening : ¬['|', '('] <:+: s
  no_closing : ¬['|', ')'] <:+: s

/-- A target with the blanks that are written around it. -/
structure Padded where
  before : Text
  target : Text
  after : Text

def Padded.text (p : Padded) : Text := p.before ++ p.target ++ p.after

structure Padded.Plain (p : Padded) : Prop where
  before : p.before.allBlank = true
  after : p.after.allBlank = true
  target : Target p.target
  inert : Inert p.target

def brace (escaped : Bool) (c : Char) : Text := if escaped then ['\\', c] else [c]

def listText (items : List Padded) : Text := [','].intercalate (items.map Padded.text)

/-- A command that lists targets between braces behind a word. -/
def written (word : Text) (escaped : Bool) (items : List Padded) (rest : Text) : Text :=
  word ++ (brace escaped '{' ++ (listText items ++ (brace escaped '}' ++ rest)))

theorem Padded.Plain.infix_text {p : Padded} (hp : p.Plain) {pat : Text} (hpat : pat ≠ [])
    (hblank : pat.all (!Text.isBlank ·) = true) : pat <:+: p.text ↔ pat <:+: p.target := by
  have hbefore := disjoint_of_blanks (List.all_eq_true.1 hp.before) hblank
  have hafter := disjoint_of_blanks (List.all_eq_true.1 hp.after) hblank
  rw [Padded.text, Text.infix_append_disjoint hafter hpat, Text.infix_disjoint_append hbefore hpat]

theorem Padded.Plain.trim_text {p : Padded} (hp : p.Plain) : Text.trim p.text = p.target := by
  rw [Padded.text, Text.trim_append_blanks (List.all_eq_true.1 hp.after),
    Text.trim_blanks_append (List.all_eq_true.1 hp.before), hp.target.trimmed]

theorem Padded.Plain.not_blank {p : Padded} (hp : p.Plain) : p.text.allBlank = false := by
  have hnot := hp.target.not_blank
  rw [← Bool.not_eq_true, ← Text.trim_eq_nil_iff] at hnot ⊢
  rwa [hp.trim_text, ← hp.target.trimmed]

theorem infix_intercalate {pat : Text} {d : Char} (hpat : pat ≠ []) (hd : d ∉ pat)
    {parts : List Text} (h : pat <:+: [d].intercalate parts) : ∃ p ∈ parts, pat <:+: p := by
  induction parts with
  | nil => exact absurd (List.infix_nil.1 h) hpat
  | cons p parts ih =>
    cases parts with
    | nil =>
      rw [List.intercalate_singleton] at h
      exact ⟨p, List.mem_cons_self, h⟩
    | cons q parts =>
      rw [List.intercalate_cons_cons, List.append_assoc, List.singleton_append,
        Text.infix_append_cons hd] at h
      rcases h with h | h
      · exact ⟨p, List.mem_cons_self, h⟩
      · obtain ⟨r, hr, h⟩ := ih h
        exact ⟨r, List.mem_cons_of_mem p hr, h⟩

section

variable {items : List Padded} (hitems : ∀ p ∈ items, p.Plain)

include hitems

theorem exists_of_infix_listText {pat : Text} (hpat : pat ≠ []) (hcomma : ',' ∉ pat)
    (hblank : pat.all (!Text.isBlank ·) = true) (h : pat <:+: listText items) :
    ∃ p ∈ items, pat <:+: p.target := by
  obtain ⟨text, htext, h⟩ := infix_intercalate hpat hcomma h
  obtain ⟨p, hp, rfl⟩ := List.mem_map.1 htext
  exact ⟨p, hp, ((hitems p hp).infix_text hpat hblank).1 h⟩

theorem not_mem_listText {c : Char} (hc : c ≠ ',') (hblank : Text.isBlank c = false)
    (h : ∀ p ∈ items, c ∉ p.target) : c ∉ listText items := by
  rw [← List.singleton_infix_iff]
  intro hinfix
  have hblank : [c].all (!Text.isBlank ·) = true := by simp [hblank]
  have hcomma : ',' ∉ [c] := by simpa using hc.symm
  obtain ⟨p, hp, hc⟩ :=
    exists_of_infix_listText hitems (List.cons_ne_nil c []) hcomma hblank hinfix
  exact h p hp ((List.singleton_infix_iff _ _).1 hc)

theorem takeWhile_listText (rest : Text) :
    (listText items ++ '}' :: rest).takeWhile (· != '}') = listText items := by
  have hbrace : '}' ∉ listText items :=
    not_mem_listText hitems (by decide) (by decide) fun p hp ↦ (hitems p hp).target.no_brace
  rw [List.takeWhile_append_of_pos, List.takeWhile_cons_of_neg (by decide), List.append_nil]
  intro c hc
  rw [bne_iff_ne]
  rintro rfl
  exact hbrace hc

theorem behind_listText (rest : Text) : behind (listText items ++ '}' :: rest) = rest := by
  have hsplit := List.takeWhile_append_dropWhile (p := (· != '}')) (l := listText items ++ '}' :: rest)
  rw [takeWhile_listText hitems, List.append_cancel_left_eq] at hsplit
  rw [behind, hsplit, List.tail_cons]

theorem listed_listText (hne : items ≠ []) (rest : Text) :
    listed (listText items ++ '}' :: rest) = items.map Padded.target := by
  have hpieces : (listText items).splitOn ',' = items.map Padded.text := by
    refine List.splitOn_intercalate ',' ?_ (by simpa using hne)
    intro text htext hcomma
    obtain ⟨p, hp, rfl⟩ := List.mem_map.1 htext
    rw [← List.singleton_infix_iff, (hitems p hp).infix_text (List.cons_ne_nil _ _) (by decide),
      List.singleton_infix_iff] at hcomma
    exact (hitems p hp).target.no_comma hcomma
  have hkept : (items.map Padded.text).filter (!Text.allBlank ·) = items.map Padded.text := by
    rw [List.filter_eq_self]
    intro text htext
    obtain ⟨p, hp, rfl⟩ := List.mem_map.1 htext
    rw [(hitems p hp).not_blank]
    rfl
  rw [listed, takeWhile_listText hitems, hpieces, hkept, List.map_map]
  exact List.map_congr_left fun p hp ↦ (hitems p hp).trim_text

omit hitems

variable {word rest : Text} (escaped : Bool)

theorem plainBraces_append {a : Text} (ha : '\\' ∉ a) (b : Text) :
    plainBraces (a ++ b) = a ++ plainBraces b := by
  induction a with
  | nil => rfl
  | cons c a ih =>
    rw [List.mem_cons, not_or] at ha
    rw [List.cons_append, plainBraces_cons (Ne.symm ha.1), ih ha.2]
    rfl

theorem plainBraces_opening (s : Text) :
    plainBraces (brace escaped '{' ++ s) = '{' :: plainBraces s := by
  cases escaped with
  | true => exact plainBraces.eq_1 s
  | false => exact plainBraces_cons (by decide) s

theorem plainBraces_closing (s : Text) :
    plainBraces (brace escaped '}' ++ s) = '}' :: plainBraces s := by
  cases escaped with
  | true => exact plainBraces.eq_2 s
  | false => exact plainBraces_cons (by decide) s

include hitems

theorem plainBraces_written (hword : '\\' ∉ word) (hrest : '\\' ∉ rest) :
    plainBraces (written word escaped items rest) =
      word ++ '{' :: (listText items ++ '}' :: rest) := by
  have hlist : '\\' ∉ listText items :=
    not_mem_listText hitems (by decide) (by decide) fun p hp ↦ (hitems p hp).inert.no_backslash
  have hend := plainBraces_append hrest []
  rw [List.append_nil, plainBraces, List.append_nil] at hend
  rw [written, plainBraces_append hword, plainBraces_opening, plainBraces_append hlist,
    plainBraces_closing, hend]

theorem not_infix_written {pat : Text} (hpat : pat ≠ []) (hcomma : ',' ∉ pat)
    (hblank : pat.all (!Text.isBlank ·) = true) (hword : ∀ c ∈ word, c ∉ pat)
    (hopen : ∀ c ∈ brace escaped '{', c ∉ pat) (hclose : ∀ c ∈ brace escaped '}', c ∉ pat)
    (htargets : ∀ p ∈ items, ¬pat <:+: p.target) (hrest : ¬pat <:+: rest) :
    ¬pat <:+: written word escaped items rest := by
  have hbrace : brace escaped '}' ≠ [] := by cases escaped <;> exact List.cons_ne_nil _ _
  rw [written, Text.infix_disjoint_append hword hpat, Text.infix_disjoint_append hopen hpat,
    Text.infix_append_disjoint_append hclose hpat hbrace]
  rintro (h | h)
  · obtain ⟨p, hp, h⟩ := exists_of_infix_listText hitems hpat hcomma hblank h
    exact htargets p hp h
  · exact hrest h

theorem not_marked_written {marker : Char} (hmarker : marker = '(' ∨ marker = ')')
    (hne : word ≠ []) (hword : word.all Char.isLower = true)
    (htargets : ∀ p ∈ items, ¬['|', marker] <:+: p.target) (hrest : ¬['|', marker] <:+: rest) :
    ¬Marked marker (written word escaped items rest) := by
  rw [List.all_eq_true] at hword
  have hlower : ∀ c ∈ word, c ∉ ['|', marker] := by
    intro c hc hmem
    have hl := hword c hc
    rcases hmarker with rfl | rfl <;> rcases List.mem_pair.1 hmem with rfl | rfl <;> cases hl
  rintro (h | h)
  · obtain ⟨c, word, rfl⟩ := List.exists_cons_of_ne_nil hne
    have hc := (List.cons_prefix_cons.1 h).1
    exact hlower c List.mem_cons_self (by simp [hc])
  · refine not_infix_written hitems escaped (List.cons_ne_nil _ _) ?_ ?_ hlower ?_ ?_ htargets hrest h
    · rcases hmarker with rfl | rfl <;> decide
    · rcases hmarker with rfl | rfl <;> decide
    · rcases hmarker with rfl | rfl <;> cases escaped <;> simp [brace]
    · rcases hmarker with rfl | rfl <;> cases escaped <;> simp [brace]

theorem cites_written (hne : items ≠ []) (hrest : Inert rest) (hword : word ≠ [])
    (hlower : word.all Char.isLower = true) :
    Cites word (written word escaped items rest) (listText items ++ '}' :: rest) := by
  refine ⟨?_, ?_, ?_, ?_⟩
  · apply plainBraces_written hitems escaped _ hrest.no_backslash
    intro hc
    have hl := List.all_eq_true.1 hlower '\\' hc
    cases hl
  · rw [listed_listText hitems hne]
    simpa using hne
  · exact not_marked_written hitems escaped (.inl rfl) hword hlower
      (fun p hp ↦ (hitems p hp).inert.no_opening) hrest.no_opening
  · exact not_marked_written hitems escaped (.inr rfl) hword hlower
      (fun p hp ↦ (hitems p hp).inert.no_closing) hrest.no_closing

end

/-- Targets that are listed behind a word are read as they were written, whatever blanks stand around
them and whether or not the braces of the list are escaped; `see` has its first target only. -/
theorem ofText_written (items : List Padded) (hne : items ≠ []) (hitems : ∀ p ∈ items, p.Plain)
    (rest : Text) (hrest : Inert rest) (escaped : Bool) :
    ofText (written "seealso".toList escaped items rest) =
        .seeAlso (items.map Padded.target) rest ∧
      ofText (written "see".toList escaped items rest) =
        .see (items.head hne).target (decide (2 ≤ items.length)) rest := by
  have hlisted := listed_listText hitems hne rest
  constructor
  · have hcites : Cites "seealso".toList (written "seealso".toList escaped items rest) _ :=
      cites_written hitems escaped hne hrest (List.cons_ne_nil _ _) (by decide)
    rw [ofText_of_seeAlso hcites, hlisted, behind_listText hitems]
  · have hcites : Cites "see".toList (written "see".toList escaped items rest) _ :=
      cites_written hitems escaped hne hrest (List.cons_ne_nil _ _) (by decide)
    rw [ofText_of_see hcites, behind_listText hitems]
    simp only [hlisted, List.head_map, List.length_map]

/-- A bar at the end of a target and a parenthesis at the beginning of the next one make no marker. -/
def spaced : List Padded :=
  [⟨[' '], "A (b|".toList, []⟩, ⟨[], "(C) \x7b".toList, "\t ".toList⟩]

theorem ofText_written_spaced :
    spaced ≠ [] ∧ (∀ p ∈ spaced, p.Plain) ∧ Inert ")textbf|".toList ∧
    written "see".toList true spaced ")textbf|".toList =
      "see\\\x7b A (b|,(C) \x7b\t \\\x7d)textbf|".toList ∧
    ofText (written "seealso".toList true spaced ")textbf|".toList) =
      .seeAlso ["A (b|".toList, "(C) \x7b".toList] ")textbf|".toList ∧
    ofText (written "see".toList true spaced ")textbf|".toList) =
      .see "A (b|".toList true ")textbf|".toList := by
  have hplain : ∀ p ∈ spaced, p.Plain := by
    intro p hp
    rcases List.mem_pair.1 hp with rfl | rfl
    · exact ⟨by decide, by decide, ⟨by decide, by decide, by decide, by decide⟩,
        ⟨by decide, by decide, by decide⟩⟩
    · exact ⟨by decide, by decide, ⟨by decide, by decide, by decide, by decide⟩,
        ⟨by decide, by decide, by decide⟩⟩
  have hinert : Inert ")textbf|".toList := ⟨by decide, by decide, by decide⟩
  exact ⟨by simp [spaced], hplain, hinert, by decide,
    ofText_written spaced (by simp [spaced]) hplain _ hinert true⟩

end BookIndex.Markup.Command
