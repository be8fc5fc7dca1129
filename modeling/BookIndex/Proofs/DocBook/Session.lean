import BookIndex.Proofs.DocBook.Marks

namespace BookIndex

def Xml.Token.attribute? (name : Text) : Xml.Token → Option Text
  | .start _ attrs _ | .empty _ attrs _ => attrs.lookup name
  | .finish _ | .data _ => none

namespace DocBook

open Markup

def Result.attribute? (r : Result) (name : Text) : Option Text :=
  r.term.bind fun t ↦ t.tokens.head?.bind (Xml.Token.attribute? name)

/-- The identifier that entry `k` of a document writes for the range it starts. -/
def xmlId? (rs : List Result) (k : Nat) : Option Text :=
  rs[k]?.bind fun r ↦ r.attribute? "xml:id".toList

/-- The identifier that entry `k` of a document writes for the range it ends. -/
def startRef? (rs : List Result) (k : Nat) : Option Text :=
  rs[k]?.bind fun r ↦ r.attribute? "startref".toList

def standard : Options := ⟨defaultEscape, false⟩

variable {o : Options} {entries : List (Text × Option Text)}

theorem any_when (f : Diagnostic → Bool) (d : Diagnostic) (c : Bool) :
    (if c then [d] else []).any f = (c && f d) := by
  cases c <;> simp

theorem any_unless (f : Diagnostic → Bool) (d : Diagnostic) (c : Bool) :
    (if c then [] else [d]).any f = (!c && f d) := by
  cases c <;> simp

theorem any_noTermFound (raw : Text) (e : Entry) :
    (problems raw e).any (·.kind == .noTermFound) =
      (e.levels.isEmpty && e.command.kind != .rangeEnd) := by
  have h₁ : (DiagnosticKind.unsupportedSortMarkup == .noTermFound) = false := rfl
  have h₂ : (DiagnosticKind.multipleSeeTargets == .noTermFound) = false := rfl
  have h₃ : (DiagnosticKind.unsupportedTrailingCommand == .noTermFound) = false := rfl
  rw [problems, List.any_append, List.any_append, List.any_append, any_when, any_when, any_unless,
    any_when, h₁, h₂, h₃, Bool.and_false, Bool.and_false, Bool.and_false, beq_self_eq_true,
    Bool.and_true]
  rfl

theorem parse_level_ne_nil {esc raw l : Text} (h : l ∈ (parse esc raw).levels) : l ≠ [] := by
  have hl := (List.mem_filter.1 h).2
  rintro rfl
  cases hl

theorem termPath_eq_nil_iff (esc raw : Text) :
    (parse esc raw).termPath = [] ↔ (parse esc raw).levels = [] := by
  unfold Entry.termPath
  constructor
  · intro h
    cases hl : (parse esc raw).levels with
    | nil => rfl
    | cons l ls =>
      have hn : l ≠ [] := parse_level_ne_nil (hl ▸ List.mem_cons_self)
      rw [hl] at h
      cases ls <;> simp_all [List.intercalate]
  · intro h
    rw [h]
    rfl

theorem kind_of_mark? {entry : Text × Option Text} {b : Bool} {p : Text}
    (h : mark? o entry = some ⟨b, p⟩) :
    (parse o.escape (Text.trim entry.1)).command.kind = (if b then .rangeStart else .rangeEnd) ∧
      (parse o.escape (Text.trim entry.1)).termPath = p := by
  simp only [mark?] at h
  split at h
  · rename_i hk
    cases h
    exact ⟨hk, rfl⟩
  · rename_i hk
    cases h
    exact ⟨hk, rfl⟩
  · cases h

theorem render_end {entry : Text × Option Text} {p : Text} (t : RangeTable)
    (h : mark? o entry = some ⟨false, p⟩) : ∃ log,
    render o t entry.1 entry.2 = ⟨log, some (.rangeEnd (t.identifier p)), t.close p⟩ := by
  obtain ⟨hk, hp⟩ := kind_of_mark? h
  rw [if_neg Bool.false_ne_true] at hk
  refine ⟨problems (Text.trim entry.1) (parse o.escape (Text.trim entry.1)), ?_⟩
  simp only [render, any_noTermFound, hk, bne_self_eq_false, Bool.and_false, indexTerm, hp,
    RangeTable.step]
  rfl

theorem render_start {entry : Text × Option Text} {p : Text} (t : RangeTable)
    (h : mark? o entry = some ⟨true, p⟩) : ∃ log sortAs levels,
    render o t entry.1 entry.2 = ⟨log, if p = [] then none else
      some (.term (o.index? entry.2) (some (t.identifier p)) sortAs levels .none), t⟩ := by
  obtain ⟨hk, hp⟩ := kind_of_mark? h
  rw [if_pos rfl] at hk
  have hn := termPath_eq_nil_iff o.escape (Text.trim entry.1)
  rw [hp] at hn
  refine ⟨problems (Text.trim entry.1) (parse o.escape (Text.trim entry.1)),
    (parse o.escape (Text.trim entry.1)).sortKey, (parse o.escape (Text.trim entry.1)).levels, ?_⟩
  have hb : (CommandKind.rangeStart != .rangeEnd) = true := rfl
  simp only [render, any_noTermFound, hk, hb, Bool.and_true, List.isEmpty_iff, ← hn, indexTerm, hp,
    RangeTable.step]
  split
  · rfl
  · rfl

theorem render_table (entry : Text × Option Text) (t : RangeTable) :
    (render o t entry.1 entry.2).table =
      t.closeAll ((mark? o entry).bind Mark.closed?).toList := by
  cases h : mark? o entry with
  | none =>
    simp only [mark?] at h
    split at h
    · cases h
    · cases h
    · rename_i hs he
      simp only [render, indexTerm]
      split
      · rfl
      · rfl
  | some m =>
    rcases m with ⟨b, p⟩
    cases b with
    | true =>
      obtain ⟨log, sortAs, levels, hr⟩ := render_start t h
      rw [hr]
      rfl
    | false =>
      obtain ⟨log, hr⟩ := render_end t h
      rw [hr]
      rfl

theorem closedBefore_cons (entry : Text × Option Text) (k : Nat) :
    closedBefore o (entry :: entries) (k + 1) =
      ((mark? o entry).bind Mark.closed?).toList ++ closedBefore o entries k := by
  unfold closedBefore
  rw [List.take_succ_cons, List.filterMap_cons]
  cases (mark? o entry).bind Mark.closed? with
  | none => rfl
  | some p => rfl

theorem getElem?_renderAll (t : RangeTable) (k : Nat) : (renderAll o t entries)[k]? =
    entries[k]?.map fun e ↦ render o (t.closeAll (closedBefore o entries k)) e.1 e.2 := by
  induction entries generalizing t k with
  | nil => rfl
  | cons entry entries ih =>
    cases k with
    | zero => rfl
    | succ k =>
      rw [renderAll, List.getElem?_cons_succ, List.getElem?_cons_succ, ih, render_table,
        closedBefore_cons]
      simp only [RangeTable.closeAll, List.foldl_append]

theorem identifier_before (k : Nat) (p : Text) :
    (RangeTable.empty.closeAll (closedBefore o entries k)).identifier p =
      numbered (Xml.cleanId p) (suffix? (closedBefore o entries k) p) :=
  (RangeTable.tracks_empty.closeAll _).identifier p

theorem startRef?_of_end {k : Nat} {p : Text} (h : markAt? o entries k = some ⟨false, p⟩) :
    startRef? (renderAll o .empty entries) k =
      some (numbered (Xml.cleanId p) (suffix? (closedBefore o entries k) p)) := by
  obtain ⟨entry, he, hm⟩ := Option.bind_eq_some_iff.1 h
  obtain ⟨log, hr⟩ := render_end (RangeTable.empty.closeAll (closedBefore o entries k)) hm
  rw [startRef?, getElem?_renderAll, he, Option.map_some, Option.bind_some, hr, identifier_before]
  rfl

theorem xmlId?_of_start {k : Nat} {p : Text} (h : markAt? o entries k = some ⟨true, p⟩) :
    xmlId? (renderAll o .empty entries) k = if p = [] then none else
      some (numbered (Xml.cleanId p) (suffix? (closedBefore o entries k) p)) := by
  obtain ⟨entry, he, hm⟩ := Option.bind_eq_some_iff.1 h
  obtain ⟨log, sortAs, levels, hr⟩ :=
    render_start (RangeTable.empty.closeAll (closedBefore o entries k)) hm
  rw [xmlId?, getElem?_renderAll, he, Option.map_some, Option.bind_some, hr, identifier_before]
  split
  · rfl
  · cases o.index? entry.2 <;> rfl

/-- When starts and ends alternate, an end refers to the identifier of its start exactly if the
start has an element and, once its path was closed before, no path is closed again in between. -/
theorem startRef_matches_iff {j : Nat} {p : Text} (h : Alternating o entries)
    (hj : markAt? o entries j = some ⟨false, p⟩) :
    ∃ i < j, markAt? o entries i = some ⟨true, p⟩ ∧
      (∀ k, i < k → k < j → ∀ b, markAt? o entries k ≠ some ⟨b, p⟩) ∧
      ∃ ref, startRef? (renderAll o .empty entries) j = some ref ∧
        (xmlId? (renderAll o .empty entries) i = some ref ↔
          p ≠ [] ∧ (p ∉ closedBefore o entries i ∨
            ∀ k, i < k → k < j → ¬Recloses o entries k)) := by
  obtain ⟨i, hij, hi, hn⟩ := h.exists_start hj
  refine ⟨i, hij, hi, hn, _, startRef?_of_end hj, ?_⟩
  -- no end of `p` stands between, so only the number of repeated ends can differ
  have hmem : p ∈ closedBefore o entries i ↔ p ∈ closedBefore o entries j := by
    refine mem_closedBefore_congr hij.le fun k hik hkj hk ↦ ?_
    rcases Nat.lt_or_eq_of_le hik with hik | rfl
    · exact hn k hik hkj false hk
    · rw [hi] at hk
      cases hk
  have hrep : repeats (closedBefore o entries i) = repeats (closedBefore o entries j) ↔
      ∀ k, i < k → k < j → ¬Recloses o entries k := by
    rw [repeats_eq_iff hij.le]
    constructor
    · exact fun hk k hik hkj ↦ hk k hik.le hkj
    · intro hk k hik hkj
      rcases Nat.lt_or_eq_of_le hik with hik | rfl
      · exact hk k hik hkj
      · exact not_recloses_of_start hi
  rw [xmlId?_of_start hi, ← hrep]
  by_cases hp : p = []
  · simp [hp]
  · by_cases hc : p ∈ closedBefore o entries i
    · rw [suffix?_of_mem hc, suffix?_of_mem (hmem.1 hc)]
      simp [hp, hc, numbered, Text.ofNat_injective.eq_iff]
    · rw [suffix?_of_notMem hc, suffix?_of_notMem fun hj ↦ hc (hmem.2 hj)]
      simp [hp, hc]

/-- The end of `B` counts as a repeated end between the start and the end of `A`. -/
def overlapping : List (Text × Option Text) :=
  ["A|(", "A|)", "B|(", "B|)", "A|(", "B|(", "B|)", "A|)"].map fun s ↦ (s.toList, none)

theorem startRef_matches_overlapping : Alternating standard overlapping ∧
    markAt? standard overlapping 5 = some ⟨true, ['B']⟩ ∧
    markAt? standard overlapping 6 = some ⟨false, ['B']⟩ ∧
    ∃ i < 6, markAt? standard overlapping i = some ⟨true, ['B']⟩ ∧
      (∀ k, i < k → k < 6 → ∀ b, markAt? standard overlapping k ≠ some ⟨b, ['B']⟩) ∧
      ∃ ref, startRef? (renderAll standard .empty overlapping) 6 = some ref ∧
        (xmlId? (renderAll standard .empty overlapping) i = some ref ↔
          ['B'] ≠ [] ∧ (['B'] ∉ closedBefore standard overlapping i ∨
            ∀ k, i < k → k < 6 → ¬Recloses standard overlapping k)) :=
  ⟨by decide +kernel, by decide +kernel, by decide +kernel,
    startRef_matches_iff (by decide +kernel) (by decide +kernel)⟩

theorem startRef_of_overlapping : Alternating standard overlapping ∧
    markAt? standard overlapping 4 = some ⟨true, ['A']⟩ ∧
    (∀ k < 7, 4 < k → ∀ b, markAt? standard overlapping k ≠ some ⟨b, ['A']⟩) ∧
    markAt? standard overlapping 7 = some ⟨false, ['A']⟩ ∧
    xmlId? (renderAll standard .empty overlapping) 4 = some "A-0".toList ∧
    startRef? (renderAll standard .empty overlapping) 7 = some "A-1".toList := by
  decide +kernel

theorem numbered_ne_of_same_path {i j : Nat} {p : Text} (h : Alternating o entries) (hij : i < j)
    (hi : markAt? o entries i = some ⟨true, p⟩) (hj : markAt? o entries j = some ⟨true, p⟩) :
    numbered (Xml.cleanId p) (suffix? (closedBefore o entries i) p) ≠
      numbered (Xml.cleanId p) (suffix? (closedBefore o entries j) p) := by
  obtain ⟨k, hik, hkj, hk⟩ := h.exists_end hij hi hj
  have hpj : p ∈ closedBefore o entries j := mem_closedBefore.2 ⟨k, hkj, hk⟩
  by_cases hpi : p ∈ closedBefore o entries i
  · have hre : Recloses o entries k := by
      obtain ⟨l, hl, hm⟩ := mem_closedBefore.1 hpi
      exact ⟨p, hk, mem_closedBefore.2 ⟨l, by omega, hm⟩⟩
    have hne : repeats (closedBefore o entries i) ≠ repeats (closedBefore o entries j) :=
      fun he ↦ (repeats_eq_iff hij.le).1 he k hik.le hkj hre
    rw [suffix?_of_mem hpi, suffix?_of_mem hpj]
    simpa [numbered, Text.ofNat_injective.eq_iff] using hne
  · rw [suffix?_of_notMem hpi, suffix?_of_mem hpj]
    simp [numbered]

/-- When starts and ends alternate, two starts have different identifiers exactly if both have
elements and their paths are the same, or do not clash when cleaned and numbered. -/
theorem xmlId_differs_iff {i j : Nat} {p q : Text} (h : Alternating o entries) (hij : i ≠ j)
    (hi : markAt? o entries i = some ⟨true, p⟩) (hj : markAt? o entries j = some ⟨true, q⟩) :
    (∃ x y, xmlId? (renderAll o .empty entries) i = some x ∧
        xmlId? (renderAll o .empty entries) j = some y ∧ x ≠ y) ↔
      p ≠ [] ∧ q ≠ [] ∧ (p = q ∨
        ¬Clash (Xml.cleanId p) (suffix? (closedBefore o entries i) p)
          (Xml.cleanId q) (suffix? (closedBefore o entries j) q)) := by
  rw [xmlId?_of_start hi, xmlId?_of_start hj, ← numbered_eq_iff]
  by_cases hp : p = []
  · simp [hp]
  by_cases hq : q = []
  · simp [hq]
  rw [if_neg hp, if_neg hq]
  constructor
  · rintro ⟨x, y, hx, hy, hxy⟩
    cases hx
    cases hy
    exact ⟨hp, hq, .inr hxy⟩
  · rintro ⟨-, -, hpq⟩
    refine ⟨_, _, rfl, rfl, ?_⟩
    rcases hpq with rfl | hxy
    · rcases Nat.lt_or_gt_of_ne hij with hij | hji
      · exact numbered_ne_of_same_path h hij hi hj
      · exact (numbered_ne_of_same_path h hji hj hi).symm
    · exact hxy

def punctuated : List (Text × Option Text) :=
  ["C+|(", "C#|("].map fun s ↦ (s.toList, none)

theorem xmlId_differs_punctuated : Alternating standard punctuated ∧ 0 ≠ 1 ∧
    markAt? standard punctuated 0 = some ⟨true, "C+".toList⟩ ∧
    markAt? standard punctuated 1 = some ⟨true, "C#".toList⟩ ∧
    ((∃ x y, xmlId? (renderAll standard .empty punctuated) 0 = some x ∧
        xmlId? (renderAll standard .empty punctuated) 1 = some y ∧ x ≠ y) ↔
      "C+".toList ≠ [] ∧ "C#".toList ≠ [] ∧ ("C+".toList = "C#".toList ∨
        ¬Clash (Xml.cleanId "C+".toList) (suffix? (closedBefore standard punctuated 0) "C+".toList)
          (Xml.cleanId "C#".toList) (suffix? (closedBefore standard punctuated 1) "C#".toList))) :=
  ⟨by decide +kernel, by decide, by decide +kernel, by decide +kernel,
    xmlId_differs_iff (by decide +kernel) (by decide) (by decide +kernel) (by decide +kernel)⟩

theorem xmlId_of_punctuated : Alternating standard punctuated ∧
    markAt? standard punctuated 0 = some ⟨true, "C+".toList⟩ ∧
    markAt? standard punctuated 1 = some ⟨true, "C#".toList⟩ ∧
    xmlId? (renderAll standard .empty punctuated) 0 = some "C_".toList ∧
    xmlId? (renderAll standard .empty punctuated) 1 = some "C_".toList := by
  decide +kernel

end DocBook
end BookIndex
