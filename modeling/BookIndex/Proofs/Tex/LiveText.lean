import BookIndex.Proofs.Tex.Comments

namespace BookIndex.Tex

open Markup

theorem scanFrom_behind (source : Text) (line : ℕ) {s : Text} (hs : s.getLast? ≠ some '\\')
    (r : Text) : scanFrom source (s.foldl Place.next (atLine line)) 0 ('%' :: r) =
      scanFrom source (atLine (line + s.count '\n')) 0 ('%' :: r) := by
  rw [scanFrom, if_neg (by decide), scanFrom, if_neg (by decide), next_behind line hs]

theorem scanFrom_plainComment (source : Text) (line : ℕ) {e t : Text} (hline : '\n' ∉ e)
    (hslash : '\\' ∉ e) (ht : t.head? = some '\n' ∨ t = []) :
    scanFrom source (atLine line) 0 ('%' :: (e ++ t)) = scanFrom source (atLine line) 0 t := by
  rw [scanFrom, if_neg (by decide), scanFrom_filler source _ hslash]
  exact scanFrom_congr source (line_behind_comment line hline) 0 ht

section

variable {source : Text} {line : ℕ} {s t : Text} {all : List Occurrence}

theorem scanFrom_of_closings (hs : Guarded isPercent backslash s) (hlast : s.getLast? ≠ some '\\')
    (ht : t.head? = some '\n' ∨ t = []) {skip : ℕ} (hskip : skip ≤ s.length)
    (h : ∀ b ∈ closings, scanFrom source (atLine line) skip (s ++ (b ++ t)) = all) :
    (∀ r, scanFrom source (atLine line) skip (s ++ '%' :: r) =
      scanFrom source (atLine line) skip s ++
        scanFrom source (atLine (line + s.count '\n')) 0 ('%' :: r)) ∧
    (∀ b ∈ closings, scanFrom source (atLine line) skip (s ++ b) =
      scanFrom source (atLine line) skip s) ∧
    all = scanFrom source (atLine line) skip s ++
      scanFrom source (atLine (line + s.count '\n')) 0 t := by
  have hthrough : ∀ r, scanFrom source (atLine line) skip (s ++ '%' :: r) =
      scanFrom source (atLine line) skip s ++
        scanFrom source (atLine (line + s.count '\n')) 0 ('%' :: r) := by
    intro r
    rw [← scanFrom_behind source line hlast]
    apply scanFrom_before_comment source (p := atLine line) (t := t) rfl hs hskip
    intro a ha b hb
    rw [h a ha, h b hb]
  refine ⟨hthrough, ?_, ?_⟩
  · intro b hb
    obtain ⟨q, x, rfl⟩ := exists_of_mem_closings hb
    rw [hthrough, scanFrom_without_backslash source _ 0 (not_mem_closing hb).1, List.append_nil]
  · have hb := mem_closings (q := .outer) nofun (x := 'x') (by decide)
    obtain ⟨hslash, hline⟩ := not_mem_closing hb
    rw [List.mem_cons, not_or] at hslash hline
    have hclosed := hthrough (Part.outer.finish 'x' ++ t)
    rw [scanFrom_plainComment source _ hline.2 hslash.2 ht] at hclosed
    rw [← hclosed]
    exact (h _ hb).symm

theorem head?_append_lineBreak (hs : s.head? = some '\n') (z : Text) :
    (s ++ z).head? = some '\n' ∨ s ++ z = [] := by
  left
  rw [List.head?_append, hs]
  rfl

theorem scanFrom_of_across (hhead : s.head? = some '\n') (ht : t.head? = some '\n' ∨ t = [])
    {q : Part} (hq : q ≠ .gap) {w : Text} (htail : IsTail (q.begun ++ s ++ '%' :: w))
    (h : ∀ e, '\n' ∉ e →
      scanFrom source (atLine line) 0 ('%' :: '\\' :: q.begun ++ (s ++ '%' :: (e ++ t))) = all) :
    all = scanFrom source (atLine (line + s.count '\n')) 0 t := by
  obtain ⟨q', hq', hbegins⟩ := htail.begins (by decide)
  have hfinish := hbegins.isTail_finish hq' (x := 'x') (by decide)
  have hcomment := not_mem_closing (mem_closings hq' (x := 'x') (by decide))
  rw [List.mem_cons, not_or, List.mem_cons, not_or] at hcomment
  have hlines : ((s ++ '%' :: q'.finish 'x').foldl Place.next (atLine line)).line =
      line + s.count '\n' := by
    rw [foldl_next_line, List.count_append, List.count_cons_of_ne (by decide),
      List.count_eq_zero_of_not_mem hcomment.2.2]
    rfl
  calc
    all = scanFrom source (atLine line) 0
        ('%' :: '\\' :: q.begun ++ (s ++ '%' :: (q'.finish 'x' ++ t))) := (h _ hcomment.2.2).symm
    _ = scanFrom source (atLine line) (s ++ '%' :: q'.finish 'x').length
        (s ++ '%' :: q'.finish 'x' ++ t) := by
      rw [List.append_assoc] at hfinish
      rw [← scanFrom_opening_of_isTail source line hq hfinish (List.prefix_append _ t)]
      · simp
      · rw [List.append_assoc]
        exact head?_append_lineBreak hhead _
    _ = scanFrom source (atLine (line + s.count '\n')) 0 t := by
      rw [scanFrom_skip]
      exact scanFrom_congr source hlines 0 ht

theorem scanFrom_opening (hs : Guarded isPercent backslash s) (hlast : s.getLast? ≠ some '\\')
    (hhead : s.head? = some '\n') (ht : t.head? = some '\n' ∨ t = []) {q : Part} (hq : q ≠ .gap)
    (hself : ∀ b ∈ closings, scanFrom source (atLine line) 0 (s ++ (b ++ t)) = all)
    (h : ∀ e, '\n' ∉ e →
      scanFrom source (atLine line) 0 ('%' :: '\\' :: q.begun ++ (s ++ '%' :: (e ++ t))) = all)
    {b : Text} (hb : b ∈ closings) :
    scanFrom source (atLine line) 0 ('%' :: '\\' :: q.begun ++ (s ++ b)) =
      scanFrom source (atLine line) 0 s := by
  obtain ⟨-, hclosed, hall⟩ := scanFrom_of_closings hs hlast ht (Nat.zero_le _) hself
  suffices hsuff : scanFrom source (atLine line) 0 ('%' :: '\\' :: q.begun ++ (s ++ b)) ++
      scanFrom source (atLine (line + s.count '\n')) 0 t = all by
    rw [hall] at hsuff
    exact List.append_cancel_right hsuff
  cases hm : Macro.ofTail? (q.begun ++ (s ++ b)) with
  | none =>
    rw [scanFrom_opening_of_none source line hq hm (head?_append_lineBreak hhead b), hclosed b hb,
      hall]
  | some m =>
    rcases ofTail?_append_cases hm with hbegun | ⟨c, w, htail, hw, -⟩
    · rw [(not_mem_begun hq).2.2] at hbegun
      cases hbegun
    · by_cases hinside : c :: w <+: s
      · -- the macro from the comment ends in the stretch
        have hopening := fun z ↦ scanFrom_opening_of_isTail source line hq htail
          (hinside.trans (List.prefix_append s z)) (head?_append_lineBreak hhead z)
        have hclosings : ∀ b ∈ closings,
            scanFrom source (atLine line) (c :: w).length (s ++ (b ++ t)) = all := by
          intro b hb
          obtain ⟨q₁, x, rfl⟩ := exists_of_mem_closings hb
          rw [← hopening]
          exact h _ fun hline ↦ (not_mem_closing hb).2 (List.mem_cons_of_mem _ hline)
        obtain ⟨-, hclosed₁, hall₁⟩ :=
          scanFrom_of_closings hs hlast ht hinside.length_le hclosings
        rw [hopening, hclosed₁ b hb, hall₁]
      · -- it goes on into the closing comment
        obtain ⟨v, hv⟩ : s <+: c :: w :=
          (List.prefix_or_prefix_of_prefix hw (List.prefix_append s b)).resolve_left hinside
        have hpercent : ∃ v', v = '%' :: v' := by
          obtain ⟨q₁, x, hb₁⟩ := exists_of_mem_closings hb
          cases v with
          | nil =>
            rw [← hv, List.append_nil] at hinside
            exact absurd (List.prefix_refl s) hinside
          | cons d v =>
            rw [← hv, List.prefix_append_right_inj, hb₁] at hw
            obtain ⟨rfl, -⟩ := List.cons_prefix_cons.1 hw
            exact ⟨v, rfl⟩
        obtain ⟨v, rfl⟩ := hpercent
        rw [scanFrom_opening_of_isTail source line hq htail hw (head?_append_lineBreak hhead b),
          ← hv, List.length_append, scanFrom_skip_add,
          scanFrom_without_backslash source _ _ (not_mem_closing hb).1]
        rw [← hv, ← List.append_assoc] at htail
        exact (scanFrom_of_across hhead ht hq htail h).symm

end

/-- A scan finds the same whatever the comments between some stretches are, and whichever of some
comments stands before all of them. -/
def Constant (source : Text) (line : ℕ) (before : List Text) (s : Text)
    (parts : List (Text × Text)) : Prop :=
  ∀ a ∈ before, ∀ parts', parts'.map Prod.snd = parts.map Prod.snd → (∀ q ∈ parts', '\n' ∉ q.1) →
    scanFrom source (atLine line) 0 (a ++ withComments s parts') =
      scanFrom source (atLine line) 0 (withComments s parts)

section

variable {source : Text} {line : ℕ} {before : List Text} {s comment t : Text}
  {parts : List (Text × Text)}

theorem Constant.scanFrom_cons (h : Constant source line before s ((comment, t) :: parts))
    {a e : Text} (ha : a ∈ before) (he : '\n' ∉ e) {parts' : List (Text × Text)}
    (hsnd : parts'.map Prod.snd = parts.map Prod.snd) (hline : ∀ q ∈ parts', '\n' ∉ q.1) :
    scanFrom source (atLine line) 0 (a ++ (s ++ '%' :: (e ++ withComments t parts'))) =
      scanFrom source (atLine line) 0 (withComments s ((comment, t) :: parts)) := by
  rw [← withComments_cons]
  exact h a ha ((e, t) :: parts') (congrArg (t :: ·) hsnd) (List.forall_mem_cons.2 ⟨he, hline⟩)

theorem Constant.closings (h : Constant source line before s ((comment, t) :: parts))
    (hparts : Separated t parts) (hnone : [] ∈ before) : ∀ b ∈ closings,
      scanFrom source (atLine line) 0 (s ++ (b ++ withComments t parts)) =
        scanFrom source (atLine line) 0 (withComments s ((comment, t) :: parts)) := by
  intro b hb
  obtain ⟨q, x, rfl⟩ := exists_of_mem_closings hb
  have hcomment : '\n' ∉ q.finish x :=
    fun hline ↦ (not_mem_closing hb).2 (List.mem_cons_of_mem _ hline)
  exact h.scanFrom_cons hnone hcomment rfl hparts.lines

variable (hparts : Separated s ((comment, t) :: parts))
  (h : Constant source line before s ((comment, t) :: parts)) (hnone : [] ∈ before)

include hparts h hnone

theorem Constant.first {a b : Text} (ha : a ∈ before)
    (hopening : a = [] ∨ a ∈ openings ∧ s.head? = some '\n') (hb : b ∈ Tex.closings) :
    scanFrom source (atLine line) 0 (a ++ s ++ b) = scanFrom source (atLine line) 0 s := by
  obtain ⟨hs, hlast, -, hnext, hrest⟩ := hparts
  have ht := head?_withComments_iff.2 hnext
  have hself := h.closings hrest hnone
  rw [List.append_assoc]
  rcases hopening with rfl | ⟨hopening, hhead⟩
  · exact (scanFrom_of_closings hs hlast ht (Nat.zero_le _) hself).2.1 b hb
  · obtain ⟨q, hq, rfl⟩ := List.mem_map.1 hopening
    have hbroken : ∀ q ∈ Part.broken, q ≠ .gap := by decide
    refine scanFrom_opening hs hlast hhead ht (hbroken q hq) hself ?_ hb
    intro e he
    exact h.scanFrom_cons ha he rfl hrest.lines

theorem Constant.rest : Constant source (line + s.count '\n') ([] :: openings) t parts := by
  have hself := h.closings hparts.2.2.2.2 hnone
  obtain ⟨hs, hlast, -, hnext, hrest⟩ := hparts
  have ht := head?_withComments_iff.2 hnext
  obtain ⟨hthrough, -, hfound⟩ := scanFrom_of_closings hs hlast ht (Nat.zero_le _) hself
  intro a ha parts' hsnd hline
  have hbehind : ∀ e, '\n' ∉ e →
      scanFrom source (atLine (line + s.count '\n')) 0 ('%' :: (e ++ withComments t parts')) =
        scanFrom source (atLine (line + s.count '\n')) 0 (withComments t parts) := by
    intro e he
    have heq := h.scanFrom_cons hnone he hsnd hline
    rw [List.nil_append, hthrough, hfound] at heq
    exact List.append_cancel_left heq
  rcases List.mem_cons.1 ha with rfl | hopening
  · have hend : (withComments t parts').head? = some '\n' ∨ withComments t parts' = [] := by
      rw [head?_withComments_iff]
      refine hnext.imp_right fun hnil ↦ ⟨hnil.1, ?_⟩
      rwa [hnil.2, List.map_nil, List.map_eq_nil_iff] at hsnd
    have hplain := scanFrom_plainComment source (line + s.count '\n') (List.not_mem_nil (a := '\n'))
      (List.not_mem_nil (a := '\\')) hend
    rw [List.nil_append, ← hplain]
    exact hbehind [] List.not_mem_nil
  · obtain ⟨q, hq, rfl⟩ := List.mem_map.1 hopening
    have hbegun : ∀ q ∈ Part.broken, '\n' ∉ '\\' :: q.begun := by decide
    exact hbehind ('\\' :: q.begun) (hbegun q hq)

end

theorem settled_of_constant (source : Text) (line : ℕ) {before : List Text} {s : Text}
    {parts : List (Text × Text)} (hparts : Separated s parts) (hnone : [] ∈ before)
    (hbefore : ∀ a ∈ before, a = [] ∨ a ∈ openings ∧ (s.head? = some '\n' ∨ parts = []))
    (h : Constant source line before s parts) :
    Settled source line before (s :: parts.map Prod.snd) := by
  induction parts generalizing line before s with
  | nil =>
    refine ⟨?_, trivial⟩
    intro a ha b hb
    obtain rfl := List.mem_singleton.1 hb
    have hlast := h a ha [] rfl (List.forall_mem_nil _)
    rw [withComments, List.flatMap_nil, List.append_nil] at hlast
    rwa [List.append_nil]
  | cons q parts ih =>
    obtain ⟨comment, t⟩ := q
    refine ⟨?_, ih _ hparts.2.2.2.2 List.mem_cons_self ?_ (h.rest hparts hnone)⟩
    · intro a ha b hb
      have hopening := (hbefore a ha).imp_right <|
        And.imp_right (Or.resolve_right · (List.cons_ne_nil _ _))
      exact h.first hparts hnone ha hopening hb
    · intro a ha
      refine (List.mem_cons.1 ha).imp_right fun hopening ↦ ⟨hopening, ?_⟩
      exact hparts.2.2.2.1.imp_right And.right

theorem live_withComments_of_map_snd {s : Text} {parts parts' : List (Text × Text)}
    (h : Separated s parts) (hsnd : parts'.map Prod.snd = parts.map Prod.snd)
    (hline : ∀ q ∈ parts', '\n' ∉ q.1) :
    live (withComments s parts') = live (withComments s parts) := by
  have hempty : ∀ qs : List (Text × Text), qs.map (fun q ↦ (([], q.2) : Text × Text)) =
      (qs.map Prod.snd).map fun t ↦ ([], t) := by
    intro qs
    rw [List.map_map]
    rfl
  have hlive := liveFrom_withComments 1 (h.of_map_snd hsnd hline)
  rw [hempty, hsnd, ← hempty, ← liveFrom_withComments 1 h] at hlive
  exact hlive

theorem scan_withComments (source : Text) {first : Text} {parts : List (Text × Text)}
    (hparts : Separated first parts) (h : Settled source 1 [[]] (first :: parts.map Prod.snd)) :
    scan source (withComments first parts) = scanEach source 1 (first :: parts.map Prod.snd) :=
  scanFrom_withComments source 1 hparts h (List.mem_singleton_self []) (.inl rfl) (within_zero _)

/-- What comments hold does not matter for the occurrences in a source exactly if all stretches of
its live text are settled. -/
theorem scan_eq_of_live_iff (source s : Text) :
    (∀ t, live t = live s → scan source t = scan source s) ↔
      Settled source 1 [[]] (stretches s) := by
  obtain ⟨first, parts, rfl, hparts⟩ := exists_separated s
  rw [stretches_withComments hparts]
  constructor
  · intro h
    refine settled_of_constant source 1 hparts (List.mem_singleton_self []) ?_ ?_
    · intro a ha
      exact .inl (List.mem_singleton.1 ha)
    · intro a ha parts' hsnd hline
      obtain rfl := List.mem_singleton.1 ha
      exact h _ (live_withComments_of_map_snd hparts hsnd hline)
  · intro h t ht
    obtain ⟨first', parts', rfl, hparts'⟩ := exists_separated t
    have hstretches : first' :: parts'.map Prod.snd = first :: parts.map Prod.snd := by
      rw [← stretches_withComments hparts', ← stretches_withComments hparts, stretches, ht]
      rfl
    rw [scan_withComments source hparts h, scan_withComments source hparts' (hstretches ▸ h),
      hstretches]

example :
    Settled [] 1 [[]] (stretches "a\\index\x7bb\x7d% c\n% d\n\\il\x7be\\%\x7d".toList) := by
  decide

/-- A macro is begun in the comment of `openComment` and in the live text behind it; that of
`emptyComment` holds nothing. -/
def openComment : Text := "% \\index\x7b\n\\index\x7bb\x7d\n\x7d".toList

def emptyComment : Text := "%\n\\index\x7bb\x7d\n\x7d".toList

theorem scan_of_openComment :
    live openComment = live emptyComment ∧ scan [] openComment ≠ scan [] emptyComment := by
  decide

end BookIndex.Tex
