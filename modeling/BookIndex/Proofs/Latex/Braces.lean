import BookIndex.Proofs.Latex.OwnKeys
import BookIndex.Proofs.Tex.Braces

namespace BookIndex.Latex

open Markup Tex

variable {s : Charset} {preview : Bool}

theorem run_protectChar {c : Char} (hc : c ≠ '\\') (n : ℕ) :
    Braces.run ⟨n, false⟩ (protectChar '"' c) = Braces.step ⟨n, false⟩ c := by
  rw [protectChar, if_neg hc]
  split
  · rename_i hq
    rw [hq]
    rfl
  · rw [Braces.run_cons]
    cases Braces.step ⟨n, false⟩ c <;> rfl

theorem run_special {p : Char × Text} (hp : p ∈ Charset.specialMacros) (n : ℕ) :
    Braces.run ⟨n, false⟩ (p.2.flatMap (protectChar '"')) = some ⟨n, false⟩ := by
  have special : ∀ p ∈ Charset.specialMacros,
      Braces.run ⟨0, false⟩ (p.2.flatMap (protectChar '"')) = some ⟨0, false⟩ := by decide
  have h := Braces.run_add (special p hp) n
  rwa [Nat.zero_add] at h

theorem run_accent (a : Text.Accent) {base : Char} (hbase : base ∉ braceSigns) (n : ℕ) :
    Braces.run ⟨n, false⟩
      (['\\', Charset.accentMacro a, '{', base, '}'].flatMap (protectChar '"')) =
        some ⟨n, false⟩ := by
  have ha : Charset.accentMacro a ∉ braceSigns := by cases a <;> decide
  have hslash : '\\' ∉ [Charset.accentMacro a, '{', base, '}'] := by
    simp only [braceSigns, List.mem_cons, not_or] at ha hbase ⊢
    grind
  have hprotect : ∀ c ∈ [Charset.accentMacro a, '{', base, '}'], ∀ n,
      Braces.run ⟨n, false⟩ (protectChar '"' c) = Braces.step ⟨n, false⟩ c := by
    intro c hc
    refine run_protectChar ?_
    rintro rfl
    exact hslash hc
  have hdrop : protectChar '"' '\\' = [] := rfl
  rw [List.flatMap_cons, hdrop, List.nil_append, Braces.run_flatMap hslash hprotect,
    Braces.run_cons, Braces.step_of_not_sign ha]
  have hopen : Braces.step ⟨n, false⟩ '{' = some ⟨n + 1, false⟩ := rfl
  have hclose : Braces.step ⟨n + 1, false⟩ '}' = some ⟨n, false⟩ := rfl
  rw [Option.bind_some, Braces.run_cons, hopen, Option.bind_some, Braces.run_cons,
    Braces.step_of_not_sign hbase, Option.bind_some, Braces.run_cons, hclose]
  rfl

theorem run_keyChar {c : Char} (h : leaves s preview c = true) (n : ℕ) :
    Braces.run ⟨n, false⟩ (keyChar s preview c) = Braces.step ⟨n, false⟩ c := by
  rcases Charset.writeChar_cases s preview c with ⟨hw, -⟩ | ⟨m, hm, hw, -⟩ | ⟨-, hk⟩
  · rw [keyChar, hw, List.flatMap_singleton]
    exact run_protectChar (bne_iff_ne.1 (Bool.and_eq_true_iff.1 h).1) n
  · have hc : c ∉ braceSigns := by
      have hascii : braceSigns.all (·.toNat < 128) = true := by decide
      intro hc
      have hc := of_decide_eq_true (List.all_eq_true.1 hascii c hc)
      rw [Charset.macro?_of_ascii s hc] at hm
      cases hm
    rw [keyChar, hw, Braces.step_of_not_sign hc]
    rcases Charset.macro?_cases hm with hm | ⟨base, a, hd, -, rfl⟩
    · exact run_special hm n
    · have bases : ∀ a ∈ Text.Accent.all, ∀ p ∈ a.table, Char.ofNat p.2 ∉ braceSigns := by decide
      obtain ⟨ha, p, hp, -, rfl⟩ := Text.exists_of_decompose? hd
      exact run_accent a (bases a ha p hp) n
  · rw [leaves, hk, Bool.and_false] at h
    cases h

theorem slash_not_mem_kept (source : Text) : '\\' ∉ kept s preview source := by
  intro h
  exact bne_iff_ne.1 (Bool.and_eq_true_iff.1 (List.mem_filter.1 h).2).1 rfl

theorem depthBehind?_key (source : Text) (n : ℕ) :
    depthBehind? n (protectKey defaultEscape (s.write preview source).1) =
      depthBehind? n (kept s preview source) := by
  rw [protectKey_write, depthBehind?, depthBehind?]
  congr 1
  refine Braces.run_flatMap (slash_not_mem_kept source) (fun c hc ↦ ?_) n
  exact run_keyChar (List.mem_filter.1 hc).2

/-- What the keys of the levels are made of, each from the plain level of the same depth: the kept
characters of their sources. -/
def keyTexts (s : Charset) (preview : Bool) : List Text → List Text → List Text
  | [], _ => []
  | level :: levels, plains =>
    let texts := keyTexts s preview levels plains.tail
    if needsSortKey defaultEscape level then
      kept s preview (keySource level (plains.headD [])) :: texts
    else texts

theorem mem_keyTexts {levels plains : List Text} {t : Text}
    (h : t ∈ keyTexts s preview levels plains) :
    ∃ source ∈ levels ++ plains, t = kept s preview source := by
  induction levels generalizing plains with
  | nil => cases h
  | cons level levels ih =>
    have hrest (h : t ∈ keyTexts s preview levels plains.tail) :
        ∃ source ∈ level :: levels ++ plains, t = kept s preview source := by
      obtain ⟨source, hmem, ht⟩ := ih h
      refine ⟨source, List.mem_cons_of_mem level ?_, ht⟩
      exact List.mem_append.2 ((List.mem_append.1 hmem).imp_right List.mem_of_mem_tail)
    rw [keyTexts] at h
    split at h
    · rcases List.mem_cons.1 h with rfl | h
      · refine ⟨_, ?_, rfl⟩
        cases plains with
        | nil => exact List.mem_cons_self
        | cons plain plains =>
          rw [keySource]
          split
          · exact List.mem_cons_self
          · exact List.mem_append_right (level :: levels) List.mem_cons_self
      · exact hrest h
    · exact hrest h

theorem slash_not_mem_keyTexts {levels plains : List Text} :
    ∀ t ∈ keyTexts s preview levels plains, '\\' ∉ t := by
  intro t ht
  obtain ⟨source, -, rfl⟩ := mem_keyTexts ht
  exact slash_not_mem_kept source

theorem foldlM_keyedLevels {levels : List Text} (hl : ∀ level ∈ levels, BracesMatch level)
    (plains : List Text) (n : ℕ) :
    (keyedLevels levels (keysOf s preview defaultEscape levels plains)).foldlM depthBehind? n =
      (keyTexts s preview levels plains).foldlM depthBehind? n := by
  induction levels generalizing plains n with
  | nil => rfl
  | cons level levels ih =>
    have hlevel := hl level List.mem_cons_self
    have hrest := ih fun l h ↦ hl l (List.mem_cons_of_mem level h)
    rw [keysOf, keyedLevels, List.foldlM_cons, keyTexts]
    split
    · rw [keyedLevel, depthBehind?_append_cons (by decide), depthBehind?_key, List.foldlM_cons]
      cases depthBehind? n (kept s preview (keySource level (plains.headD []))) with
      | none => rfl
      | some m =>
        rw [Option.bind_some, hlevel.depthBehind?]
        exact hrest plains.tail m
    · rw [keyedLevel, hlevel.depthBehind?]
      exact hrest plains.tail n

theorem depthBehind?_macroBody {levels : List Text} {command : Option Text}
    (hl : ∀ level ∈ levels, BracesMatch level) (hc : ∀ c ∈ command, BracesMatch c)
    (plains : List Text) (n : ℕ) :
    depthBehind? n (macroBody levels (keysOf s preview defaultEscape levels plains) command) =
      (keyTexts s preview levels plains).foldlM depthBehind? n := by
  have hlevel : '!' ∉ braceSigns := by decide
  have hbar : '|' ∉ braceSigns := by decide
  rw [← foldlM_keyedLevels hl, ← depthBehind?_intercalate hlevel]
  unfold macroBody
  split
  · rw [List.append_nil]
  · rw [List.append_nil]
  · rename_i command _
    rw [depthBehind?_append_cons hbar]
    cases depthBehind? n _ with
    | none => rfl
    | some m => exact (hc command rfl).depthBehind? m

theorem bracesMatch_macroBody_iff {levels : List Text} {command : Option Text}
    (hl : ∀ level ∈ levels, BracesMatch level) (hc : ∀ c ∈ command, BracesMatch c)
    (plains : List Text) :
    BracesMatch (macroBody levels (keysOf s preview defaultEscape levels plains) command) ↔
      BracesMatch (keyTexts s preview levels plains).flatten := by
  rw [BracesMatch, depthBehind?_macroBody hl hc, ← depthBehind?_flatten slash_not_mem_keyTexts]
  rfl

theorem bracesMatch_keyTexts (hs : s.HoldsAscii) {levels plains : List Text}
    (h : ∀ source ∈ levels ++ plains, BracesMatch source ∧ EscapesNoBrace source) :
    BracesMatch (keyTexts s preview levels plains).flatten := by
  have hleaves (c : Char) (hc : c ≠ '\\') (hascii : c.toNat < 128) : leaves s preview c = true := by
    rw [leaves, Charset.isLost, hs c hascii, Bool.not_true, Bool.false_and, Bool.not_false,
      Bool.or_true, Bool.and_true]
    exact bne_iff_ne.2 hc
  have hopen := hleaves '{' (by decide) (by decide)
  have hclose := hleaves '}' (by decide) (by decide)
  have htexts : ∀ t ∈ keyTexts s preview levels plains, BracesMatch t := by
    intro t ht
    obtain ⟨source, hmem, rfl⟩ := mem_keyTexts ht
    obtain ⟨hmatch, hescapes⟩ := h source hmem
    exact (bracesMatch_filter_iff rfl hopen hclose hescapes).2 hmatch
  rw [BracesMatch, depthBehind?_flatten slash_not_mem_keyTexts]
  exact foldlM_of_bracesMatch htexts 0

theorem bracesMatch_raw {raw : Text}
    (hl : ∀ level ∈ (splitMarkup defaultEscape raw).1, BracesMatch level)
    (hc : ∀ command ∈ (splitMarkup defaultEscape raw).2, BracesMatch command) :
    BracesMatch raw := by
  have hpath (n : ℕ) : depthBehind? n (splitCommand defaultEscape raw).1 = some n := by
    have hjoin : ['!'].intercalate (pieces isLevelSeparator defaultEscape _) = _ :=
      intercalate_pieces (fun _ hd ↦ eq_of_beq hd) (splitCommand defaultEscape raw).1
    rw [← hjoin, depthBehind?_intercalate (by decide)]
    refine foldlM_of_bracesMatch (fun p hp ↦ ?_) n
    have htrim := hl (Text.trim p) (List.mem_map_of_mem hp)
    rwa [BracesMatch, depthBehind?_trim] at htrim
  unfold splitMarkup splitCommand at hc
  unfold splitCommand at hpath
  split at hc
  · rename_i path command hcut
    obtain ⟨-, c, hbar, rfl⟩ := exists_of_cutFrom_eq_some hcut
    rw [hcut] at hpath
    rw [eq_of_beq hbar, BracesMatch, depthBehind?_append_cons (by decide), hpath]
    exact hc command rfl
  · rename_i hcut
    rw [hcut] at hpath
    exact hpath 0

/-- Where the levels and the command of an entry match their braces, so does the argument of its
macro, unless the generated keys do not. What they are made of has no backslash left, so that each of
its braces counts, and the argument matches its braces exactly if these match, put together. They do
if the plain levels match theirs as well and no brace is escaped. -/
theorem render_bracesMatch_iff (s : Charset) (o : Options)
    (hv : o.validator = (Codec.charset s).validator) (he : o.escape = defaultEscape)
    (raw plain : Text) (index : Option Text)
    (hl : ∀ level ∈ (splitMarkup defaultEscape raw).1, BracesMatch level)
    (hc : ∀ command ∈ (splitMarkup defaultEscape raw).2, BracesMatch command) :
    let levels := (splitMarkup defaultEscape raw).1
    let plains := (splitMarkup defaultEscape plain).1
    ∃ body log,
      render o raw plain index = .ok (indexMacro o.useIndices index ++ body ++ ['}'], log) ∧
      (BracesMatch body ↔
        o.verbatim = true ∨ BracesMatch (keyTexts s o.preview levels plains).flatten) ∧
      (s.HoldsAscii → (∀ plain ∈ plains, BracesMatch plain) →
        (∀ level ∈ levels ++ plains, EscapesNoBrace level) → BracesMatch body) := by
  intro levels plains
  cases hverbatim : o.verbatim with
  | true =>
    have hraw := bracesMatch_raw hl hc
    refine ⟨raw, [], ?_, iff_of_true hraw (.inl rfl), fun _ _ _ ↦ hraw⟩
    rw [render, hverbatim]
    rfl
  | false =>
    obtain ⟨log, hrender⟩ := render_of_charset hv hverbatim raw plain index
    rw [he] at hrender
    have hbody : BracesMatch (macroBody levels (keysOf s o.preview defaultEscape levels plains)
          (splitMarkup defaultEscape raw).2) ↔
        BracesMatch (keyTexts s o.preview levels plains).flatten :=
      bracesMatch_macroBody_iff hl hc plains
    refine ⟨_, log, hrender, ?_, ?_⟩
    · rw [or_iff_right Bool.false_ne_true]
      exact hbody
    · intro ascii hplains hescapes
      refine hbody.2 (bracesMatch_keyTexts ascii fun source hsource ↦ ?_)
      exact ⟨(List.mem_append.1 hsource).elim (hl source) (hplains source), hescapes source hsource⟩

/-- The braces that were escaped match across two keys. -/
theorem render_bracesMatch_across :
    let o : Options := ⟨(Codec.charset .ascii).validator, defaultEscape, false, false, false⟩
    let raw := "\\emph\x7bÉ\\\x7b\x7d!\\textbf\x7bb\\\x7d\x7d|see\x7bc\x7d".toList
    let plain := "É\\\x7b".toList
    (∀ level ∈ (splitMarkup defaultEscape raw).1, BracesMatch level) ∧
      (∀ command ∈ (splitMarkup defaultEscape raw).2, BracesMatch command) ∧
      ∃ body log, render o raw plain none = .ok ("\\index\x7b".toList ++ body ++ ['}'], log) ∧
        BracesMatch body := by
  intro o raw plain
  have hl : ∀ level ∈ (splitMarkup defaultEscape raw).1, BracesMatch level := by decide
  have hc : ∀ command ∈ (splitMarkup defaultEscape raw).2, BracesMatch command := by
    rintro _ ⟨⟩
    decide
  obtain ⟨body, log, hr, hiff, -⟩ :=
    render_bracesMatch_iff .ascii o rfl rfl raw plain none hl hc
  have htexts : BracesMatch (keyTexts .ascii false (splitMarkup defaultEscape raw).1
      (splitMarkup defaultEscape plain).1).flatten := by decide
  exact ⟨hl, hc, body, log, hr, hiff.2 (.inr htexts)⟩

def escapedBrace : Text := ['\\', '{']

/-- A level that is an escaped brace gets a bare brace as its key. -/
theorem render_of_escapedBrace :
    let o : Options := ⟨(Codec.charset .utf8).validator, defaultEscape, false, false, false⟩
    splitMarkup defaultEscape escapedBrace = ([escapedBrace], none) ∧ BracesMatch escapedBrace ∧
      splitMarkup defaultEscape [] = ([[]], none) ∧ BracesMatch [] ∧
      render o escapedBrace [] none =
        .ok (indexMacro false none ++ '{' :: '@' :: escapedBrace ++ ['}'], []) ∧
      ¬BracesMatch ('{' :: '@' :: escapedBrace) := by
  decide +kernel

end BookIndex.Latex
