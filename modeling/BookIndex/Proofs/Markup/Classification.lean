import BookIndex.Proofs.Markup.Commands

namespace BookIndex.Markup

theorem not_mem_of_mem_splitOn {d : Char} {s p : Text} (h : p ∈ s.splitOn d) : d ∉ p := by
  rw [← pieces_nil_eq_splitOn] at h
  have hguard : Guarded (· == d) [] p := guarded_of_mem_pieces (fun c _ ↦ escapes_nil (some c)) h
  intro hd
  obtain ⟨a, b, rfl⟩ := List.append_of_mem hd
  have hcons := ((guardedFrom_append none a (d :: b)).1 hguard).2
  have hesc := hcons.1 (beq_self_eq_true d)
  rw [escapes_nil] at hesc
  cases hesc

theorem mem_of_mem_splitOn {d c : Char} {s p : Text} (h : p ∈ s.splitOn d) (hc : c ∈ p) :
    c ∈ s := by
  rw [← pieces_nil_eq_splitOn] at h
  obtain ⟨a, b, rfl, -⟩ := exists_of_mem_pieces h
  exact List.mem_append_left b (List.mem_append_right a hc)

namespace Command

/-- A range marker stands in front of a command, or somewhere in it behind a bar. -/
def Marked (marker : Char) (s : Text) : Prop := [marker] <+: s ∨ ['|', marker] <:+: s

def plainBraces : Text → Text
  | '\\' :: '{' :: s => '{' :: plainBraces s
  | '\\' :: '}' :: s => '}' :: plainBraces s
  | c :: s => c :: plainBraces s
  | [] => []

def listed (s : Text) : List Text :=
  (((s.takeWhile (· != '}')).splitOn ',').filter (!Text.allBlank ·)).map Text.trim

def behind (s : Text) : Text := (s.dropWhile (· != '}')).tail

/-- A command without range markers that names something in a list behind a word. -/
structure Cites (word s list : Text) : Prop where
  braces : plainBraces s = word ++ '{' :: list
  listed : listed list ≠ []
  not_opening : ¬Marked '(' s
  not_closing : ¬Marked ')' s

theorem hasMarker_iff (marker : Char) (s : Text) : hasMarker marker s = true ↔ Marked marker s := by
  rw [hasMarker, Marked, Bool.or_eq_true, Text.occurs_iff_infix, beq_iff_eq]
  cases s with
  | nil => simp
  | cons c s => simp [eq_comm]

theorem hasMarker_eq_false {marker : Char} {s : Text} (h : ¬Marked marker s) :
    hasMarker marker s = false := by
  rwa [← Bool.not_eq_true, hasMarker_iff]

theorem plainBraces_cons {c : Char} (h : c ≠ '\\') (s : Text) :
    plainBraces (c :: s) = c :: plainBraces s := by
  rw [plainBraces]
  · exact fun _ hc ↦ absurd hc h
  · exact fun _ hc ↦ absurd hc h

theorem unescapeBraces_eq (s : Text) : unescapeBraces s = plainBraces s := by
  unfold unescapeBraces
  fun_induction plainBraces s with
  | case1 s ih =>
    have hopen : Text.replace ['\\', '{'] ['{'] ('\\' :: '{' :: s) =
        '{' :: Text.replace ['\\', '{'] ['{'] s :=
      Text.replace_append (List.cons_ne_nil _ _) ['{'] s
    rw [hopen, Text.replace_cons (by simp), ih]
  | case2 s ih =>
    have hopen : Text.replace ['\\', '{'] ['{'] ('\\' :: '}' :: s) =
        '\\' :: '}' :: Text.replace ['\\', '{'] ['{'] s := by
      rw [Text.replace_cons (by simp), Text.replace_cons (by simp)]
    rw [hopen, ← ih]
    exact Text.replace_append (List.cons_ne_nil _ _) ['}'] _
  | case3 c s hopening hclosing ih =>
    have hopen : ¬['\\', '{'] <+: c :: s := by
      rintro ⟨rest, hrest⟩
      obtain ⟨hc, hs⟩ := List.cons_eq_cons.1 hrest
      exact hopening rest hc.symm hs.symm
    rw [Text.replace_cons hopen]
    have hclose : ¬['\\', '}'] <+: c :: Text.replace ['\\', '{'] ['{'] s := by
      rintro ⟨rest, hrest⟩
      obtain ⟨hc, hs⟩ := List.cons_eq_cons.1 hrest
      have hhead : s.head? = some '}' := by
        refine Text.head?_of_head?_replace (List.cons_ne_nil '\\' ['{']) (by decide : '}' ≠ '{') ?_
        rw [← hs]
        rfl
      obtain ⟨rest, hrest⟩ := List.head?_eq_some_iff.1 hhead
      exact hclosing rest hc.symm hrest
    rw [Text.replace_cons hclose, ih]
  | case4 => rfl

theorem body_eq (s : Text) : body s = (s.takeWhile (· != '}'), behind s) := by
  unfold body behind
  induction s with
  | nil => rfl
  | cons c s ih =>
    by_cases hc : c = '}'
    · subst hc
      rfl
    · have hbegins : ['}'].isPrefixOf (c :: s) = false := by
        rw [List.isPrefixOf, beq_false_of_ne (Ne.symm hc), Bool.false_and]
      have htake : (c :: s).takeWhile (· != '}') = c :: s.takeWhile (· != '}') :=
        List.takeWhile_cons_of_pos (bne_iff_ne.2 hc)
      have hdrop : (c :: s).dropWhile (· != '}') = s.dropWhile (· != '}') :=
        List.dropWhile_cons_of_pos (bne_iff_ne.2 hc)
      rw [Text.cut?, hbegins, htake, hdrop]
      cases hcut : Text.cut? ['}'] s with
      | none =>
        rw [hcut] at ih
        simpa using ih
      | some r =>
        rw [hcut] at ih
        simpa [Prod.ext_iff] using ih

theorem targetsOf_body (s : Text) : targetsOf (body s).1 = listed s := by
  have hblank : ((!·.isEmpty) ∘ Text.trim) = (!Text.allBlank ·) := by
    funext p
    rw [Function.comp_apply, Bool.eq_iff_iff, Bool.not_eq_true', Bool.not_eq_true',
      ← Bool.not_eq_true, ← Bool.not_eq_true, List.isEmpty_iff, Text.trim_eq_nil_iff]
  rw [targetsOf, body_eq, List.filter_map, hblank, listed]

theorem snd_body (s : Text) : (body s).2 = behind s := by rw [body_eq]

theorem range?_of_not_marked {s : Text} (hopen : ¬Marked '(' s) (hclose : ¬Marked ')' s) :
    range? s = Option.none := by
  have h := map_bare_range? s
  rw [hasMarker_eq_false hopen, hasMarker_eq_false hclose] at h
  exact Option.map_eq_none_iff.1 h

theorem kind_ofText_of_range {s : Text} {c : Command} (h : (range? s).map bare = some c) :
    (ofText s).kind = c.kind := by
  obtain ⟨range, hrange, rfl⟩ := Option.map_eq_some_iff.1 h
  rw [ofText, hrange, kind_bare]

theorem kind_of_opening {s : Text} (h : Marked '(' s) : (ofText s).kind = .rangeStart := by
  have hrange := map_bare_range? s
  rw [(hasMarker_iff _ _).2 h] at hrange
  exact kind_ofText_of_range hrange

theorem kind_of_closing {s : Text} (hopen : ¬Marked '(' s) (h : Marked ')' s) :
    (ofText s).kind = .rangeEnd := by
  have hrange := map_bare_range? s
  rw [hasMarker_eq_false hopen, (hasMarker_iff _ _).2 h] at hrange
  exact kind_ofText_of_range hrange

theorem reference?_of_seeAlso {s list : Text}
    (h : plainBraces s = "seealso".toList ++ '{' :: list) : reference? s =
      if listed list = [] then Option.none else some (.seeAlso (listed list) (behind list)) := by
  have hbegins : "seealso\x7b".toList.isPrefixOf? (unescapeBraces s) = some list := by
    rw [List.isPrefixOf?_eq_some_iff_append_eq, unescapeBraces_eq, h]
    rfl
  simp only [reference?, hbegins, targetsOf_body, snd_body]
  cases listed list with
  | nil => rfl
  | cons target others => rfl

theorem reference?_of_see {s list : Text} (h : plainBraces s = "see".toList ++ '{' :: list) :
    reference? s = (listed list).head?.map fun target ↦
      .see target (decide (2 ≤ (listed list).length)) (behind list) := by
  have hseeAlso : "seealso\x7b".toList.isPrefixOf? (unescapeBraces s) = Option.none := by
    rw [unescapeBraces_eq, h]
    rfl
  have hbegins : "see\x7b".toList.isPrefixOf? (unescapeBraces s) = some list := by
    rw [List.isPrefixOf?_eq_some_iff_append_eq, unescapeBraces_eq, h]
    rfl
  simp only [reference?, hseeAlso, hbegins, targetsOf_body, snd_body]
  cases listed list with
  | nil => rfl
  | cons target others => cases others <;> simp

theorem reference?_of_uncited {s : Text}
    (hseeAlso : ∀ list, plainBraces s ≠ "seealso".toList ++ '{' :: list)
    (hsee : ∀ list, plainBraces s ≠ "see".toList ++ '{' :: list) : reference? s = Option.none := by
  have hnone (word : Text) (h : ∀ list, plainBraces s ≠ word ++ '{' :: list) :
      (word ++ ['{']).isPrefixOf? (unescapeBraces s) = Option.none := by
    rw [Option.eq_none_iff_forall_ne_some]
    intro list hlist
    rw [List.isPrefixOf?_eq_some_iff_append_eq, unescapeBraces_eq, List.append_assoc] at hlist
    exact h list hlist.symm
  have h₁ : "seealso\x7b".toList.isPrefixOf? (unescapeBraces s) = Option.none :=
    hnone "seealso".toList hseeAlso
  have h₂ : "see\x7b".toList.isPrefixOf? (unescapeBraces s) = Option.none :=
    hnone "see".toList hsee
  simp only [reference?, h₁, h₂]

theorem ofText_of_not_marked {s : Text} (hopen : ¬Marked '(' s) (hclose : ¬Marked ')' s) :
    ofText s = (reference? s).getD (if s.allBlank then none else format s) := by
  rw [ofText, range?_of_not_marked hopen hclose]
  cases reference? s <;> rfl

theorem ofText_of_seeAlso {s list : Text} (h : Cites "seealso".toList s list) :
    ofText s = .seeAlso (listed list) (behind list) := by
  rw [ofText_of_not_marked h.not_opening h.not_closing, reference?_of_seeAlso h.braces,
    if_neg h.listed, Option.getD_some]

theorem ofText_of_see {s list : Text} (h : Cites "see".toList s list) :
    ofText s = .see ((listed list).head h.listed) (decide (2 ≤ (listed list).length))
      (behind list) := by
  rw [ofText_of_not_marked h.not_opening h.not_closing, reference?_of_see h.braces,
    List.head?_eq_some_head h.listed, Option.map_some, Option.getD_some]

theorem ofText_of_uncited {s : Text} (hopen : ¬Marked '(' s) (hclose : ¬Marked ')' s)
    (hseeAlso : ∀ list, ¬Cites "seealso".toList s list)
    (hsee : ∀ list, ¬Cites "see".toList s list) :
    ofText s = if s.allBlank then none else format s := by
  have hnone : reference? s = Option.none := by
    by_cases h₁ : ∃ list, plainBraces s = "seealso".toList ++ '{' :: list
    · obtain ⟨list, h₁⟩ := h₁
      rw [reference?_of_seeAlso h₁, if_pos]
      by_contra hlist
      exact hseeAlso list ⟨h₁, hlist, hopen, hclose⟩
    by_cases h₂ : ∃ list, plainBraces s = "see".toList ++ '{' :: list
    · obtain ⟨list, h₂⟩ := h₂
      have hlist : listed list = [] := by
        by_contra hlist
        exact hsee list ⟨h₂, hlist, hopen, hclose⟩
      rw [reference?_of_see h₂, hlist]
      rfl
    · exact reference?_of_uncited (not_exists.1 h₁) (not_exists.1 h₂)
  rw [ofText_of_not_marked hopen hclose, hnone, Option.getD_none]

theorem mem_of_mem_plainBraces {s : Text} {c : Char} (h : c ∈ plainBraces s) : c ∈ s := by
  fun_induction plainBraces s with
  | case1 s ih =>
    rcases List.mem_cons.1 h with rfl | h
    · simp
    · simp [ih h]
  | case2 s ih =>
    rcases List.mem_cons.1 h with rfl | h
    · simp
    · simp [ih h]
  | case3 d s _ _ ih =>
    rcases List.mem_cons.1 h with rfl | h
    · simp
    · simp [ih h]
  | case4 => exact h

theorem allBlank_eq_false_of_mem {s : Text} {c : Char} (hc : c ∈ s)
    (hblank : Text.isBlank c = false) : s.allBlank = false := by
  rw [← Bool.not_eq_true, Text.allBlank, List.all_eq_true]
  intro h
  have hc := h c hc
  rw [hblank] at hc
  cases hc

theorem Marked.not_blank {marker : Char} {s : Text} (h : Marked marker s)
    (hmarker : Text.isBlank marker = false) : s.allBlank = false := by
  apply allBlank_eq_false_of_mem (c := marker) _ hmarker
  rcases h with h | h
  · exact h.subset (List.mem_singleton_self marker)
  · exact h.subset (List.mem_cons_of_mem '|' (List.mem_singleton_self marker))

theorem Cites.not_blank {word s list : Text} (h : Cites word s list) : s.allBlank = false := by
  have hbrace : '{' ∈ plainBraces s := by
    rw [h.braces]
    exact List.mem_append_right word List.mem_cons_self
  exact allBlank_eq_false_of_mem (mem_of_mem_plainBraces hbrace) (by decide)

def HasKind (s : Text) : CommandKind → Prop
  | .none => s.allBlank = true
  | .rangeStart => Marked '(' s
  | .rangeEnd => ¬Marked '(' s ∧ Marked ')' s
  | .seeAlso => ∃ list, Cites "seealso".toList s list
  | .see => ∃ list, Cites "see".toList s list
  | .format => s.allBlank = false ∧ ¬Marked '(' s ∧ ¬Marked ')' s ∧
      (∀ list, ¬Cites "seealso".toList s list) ∧ ∀ list, ¬Cites "see".toList s list

theorem hasKind_ofText (s : Text) : HasKind s (ofText s).kind := by
  by_cases hopen : Marked '(' s
  · rw [kind_of_opening hopen]
    exact hopen
  by_cases hclose : Marked ')' s
  · rw [kind_of_closing hopen hclose]
    exact ⟨hopen, hclose⟩
  by_cases hseeAlso : ∃ list, Cites "seealso".toList s list
  · obtain ⟨list, hlist⟩ := hseeAlso
    rw [ofText_of_seeAlso hlist]
    exact ⟨list, hlist⟩
  by_cases hsee : ∃ list, Cites "see".toList s list
  · obtain ⟨list, hlist⟩ := hsee
    rw [ofText_of_see hlist]
    exact ⟨list, hlist⟩
  rw [not_exists] at hseeAlso hsee
  rw [ofText_of_uncited hopen hclose hseeAlso hsee]
  cases hblank : s.allBlank with
  | true => exact hblank
  | false => exact ⟨hblank, hopen, hclose, hseeAlso, hsee⟩

theorem HasKind.kind_eq {s : Text} {kind : CommandKind} (h : HasKind s kind) :
    (ofText s).kind = kind := by
  cases kind with
  | rangeStart => exact kind_of_opening h
  | rangeEnd => exact kind_of_closing h.1 h.2
  | seeAlso =>
    obtain ⟨list, hlist⟩ := h
    rw [ofText_of_seeAlso hlist]
    rfl
  | see =>
    obtain ⟨list, hlist⟩ := h
    rw [ofText_of_see hlist]
    rfl
  | format =>
    obtain ⟨hblank, hopen, hclose, hseeAlso, hsee⟩ := h
    rw [ofText_of_uncited hopen hclose hseeAlso hsee, hblank]
    rfl
  | none =>
    have hblank : s.allBlank = true := h
    have hmarked (marker : Char) (hmarker : Text.isBlank marker = false) : ¬Marked marker s := by
      intro hm
      rw [hm.not_blank hmarker] at hblank
      cases hblank
    have hcites (word list : Text) : ¬Cites word s list := by
      intro hc
      rw [hc.not_blank] at hblank
      cases hblank
    rw [ofText_of_uncited (hmarked '(' (by decide)) (hmarked ')' (by decide)) (hcites _) (hcites _),
      hblank]
    rfl

theorem kind_ofText_iff (s : Text) (kind : CommandKind) :
    (ofText s).kind = kind ↔ HasKind s kind :=
  ⟨fun h ↦ h ▸ hasKind_ofText s, HasKind.kind_eq⟩

/-- A target that a list can hold: it is not blank, has no blanks at its ends, and nothing in it ends
a piece or the list. -/
structure Target (s : Text) : Prop where
  not_blank : s.allBlank = false
  trimmed : Text.trim s = s
  no_comma : ',' ∉ s
  no_brace : '}' ∉ s

theorem target_of_mem_listed {list target : Text} (h : target ∈ listed list) : Target target := by
  obtain ⟨piece, hpiece, rfl⟩ := List.mem_map.1 h
  obtain ⟨hmem, hblank⟩ := List.mem_filter.1 hpiece
  obtain ⟨a, b, hab, -, -⟩ := Text.exists_trim piece
  have hsub : ∀ c ∈ Text.trim piece, c ∈ piece := by
    intro c hc
    rw [hab]
    exact List.mem_append_left b (List.mem_append_right a hc)
  refine ⟨?_, Text.trim_trim piece, ?_, ?_⟩
  · rw [← Bool.not_eq_true, ← Text.trim_eq_nil_iff, Text.trim_trim, Text.trim_eq_nil_iff]
    simpa using hblank
  · intro hc
    exact not_mem_of_mem_splitOn hmem (hsub _ hc)
  · intro hc
    have hbefore := List.mem_takeWhile_imp (mem_of_mem_splitOn hmem (hsub _ hc))
    simp at hbefore

/-- A reading of a command says of it what its characters say. -/
structure Exact (s : Text) (c : Command) : Prop where
  kind_iff (kind : CommandKind) : c.kind = kind ↔ HasKind s kind
  seeAlso (list : Text) (h : Cites "seealso".toList s list) :
    c.targets = listed list ∧ c.leftover = behind list
  see (list : Text) (h : Cites "see".toList s list) :
    c.targets = (listed list).take 1 ∧ c.leftover = behind list
  no_targets : c.kind ≠ .see → c.kind ≠ .seeAlso → c.targets = []
  target : ∀ target ∈ c.targets, Target target
  hasMoreTargets_iff : c.hasMoreTargets = true ↔
    ∃ list, Cites "see".toList s list ∧ 2 ≤ (listed list).length
  none_leftover : c.kind = .none → c.leftover = []
  format_leftover : c.kind = .format → c.leftover = s

theorem targets_eq_nil {c : Command} (hsee : c.kind ≠ .see) (hseeAlso : c.kind ≠ .seeAlso) :
    c.targets = [] := by
  cases c with
  | see => exact absurd rfl hsee
  | seeAlso => exact absurd rfl hseeAlso
  | _ => rfl

theorem kind_of_hasMoreTargets {c : Command} (h : c.hasMoreTargets = true) : c.kind = .see := by
  cases c with
  | see => rfl
  | _ => cases h

theorem targets_of_see {s list : Text} (h : Cites "see".toList s list) :
    (ofText s).targets = (listed list).take 1 := by
  rw [ofText_of_see h, List.take_one, List.head?_eq_some_head h.listed]
  rfl

theorem targets_of_seeAlso {s list : Text} (h : Cites "seealso".toList s list) :
    (ofText s).targets = listed list := by
  rw [ofText_of_seeAlso h]
  rfl

theorem target_of_mem_targets {s target : Text} (h : target ∈ (ofText s).targets) :
    Target target := by
  by_cases hsee : (ofText s).kind = .see
  · obtain ⟨list, hlist⟩ := (kind_ofText_iff s .see).1 hsee
    rw [targets_of_see hlist] at h
    exact target_of_mem_listed (List.mem_of_mem_take h)
  by_cases hseeAlso : (ofText s).kind = .seeAlso
  · obtain ⟨list, hlist⟩ := (kind_ofText_iff s .seeAlso).1 hseeAlso
    rw [targets_of_seeAlso hlist] at h
    exact target_of_mem_listed h
  · rw [targets_eq_nil hsee hseeAlso] at h
    cases h

theorem hasMoreTargets_ofText_iff (s : Text) : (ofText s).hasMoreTargets = true ↔
    ∃ list, Cites "see".toList s list ∧ 2 ≤ (listed list).length := by
  constructor
  · intro h
    obtain ⟨list, hlist⟩ := (kind_ofText_iff s .see).1 (kind_of_hasMoreTargets h)
    rw [ofText_of_see hlist] at h
    exact ⟨list, hlist, of_decide_eq_true h⟩
  · rintro ⟨list, hlist, hmore⟩
    rw [ofText_of_see hlist]
    exact decide_eq_true hmore

/-- Every command is classified by what its characters say. A missing command is an empty one. -/
theorem ofText?_exact (s : Option Text) : Exact (s.getD []) (ofText? s) := by
  have hs : ofText? s = ofText (s.getD []) := by
    cases s with
    | none => rfl
    | some s => rfl
  rw [hs]
  generalize s.getD [] = s
  refine ⟨kind_ofText_iff s, ?_, ?_, targets_eq_nil, fun _ h ↦ target_of_mem_targets h,
    hasMoreTargets_ofText_iff s, ?_, ?_⟩
  · intro list h
    refine ⟨targets_of_seeAlso h, ?_⟩
    rw [ofText_of_seeAlso h]
    rfl
  · intro list h
    refine ⟨targets_of_see h, ?_⟩
    rw [ofText_of_see h]
    rfl
  · intro h
    cases hc : ofText s with
    | none => rfl
    | _ =>
      rw [hc] at h
      cases h
  · intro h
    obtain ⟨hblank, hopen, hclose, hseeAlso, hsee⟩ := (kind_ofText_iff s .format).1 h
    rw [ofText_of_uncited hopen hclose hseeAlso hsee, hblank]
    rfl

end Command
end BookIndex.Markup
