import BookIndex.Proofs.Text.Cuts
import BookIndex.Proofs.Tex.Parts
import BookIndex.Proofs.Tex.Stretches

namespace BookIndex.Tex

open Markup

/-- Comments that begin a macro and leave it in each part in which it can be broken off. -/
def openings : List Text := Part.broken.map fun q ↦ '%' :: '\\' :: q.begun

/-- Comments that finish a macro from each of these parts, with two different bodies. -/
def closings : List Text := ['x', 'y'].flatMap fun x ↦ Part.broken.map fun q ↦ '%' :: q.finish x

/-- Each stretch has the occurrences that it has alone, whichever of some comments stand before it
and behind it. The first stretch has no comment before it, and the last one has none behind it. -/
def Settled (source : Text) : (line : ℕ) → (before : List Text) → List Text → Prop
  | _, _, [] => True
  | line, before, s :: rest =>
    (∀ a ∈ before, ∀ b ∈ if rest.isEmpty then [[]] else closings,
      scanFrom source (atLine line) 0 (a ++ s ++ b) = scanFrom source (atLine line) 0 s) ∧
    Settled source (line + s.count '\n') ([] :: openings) rest

instance decidableSettled (source : Text) : (line : ℕ) → (before stretches : List Text) →
    Decidable (Settled source line before stretches)
  | _, _, [] => inferInstanceAs (Decidable True)
  | line, _, s :: rest =>
    have := decidableSettled source (line + s.count '\n') ([] :: openings) rest
    inferInstanceAs (Decidable (_ ∧ _))

theorem scanFrom_congr (source : Text) {p p' : Place} (h : p.line = p'.line) (skip : ℕ) {s : Text}
    (hs : s.head? = some '\n' ∨ s = []) :
    scanFrom source p skip s = scanFrom source p' skip s := by
  cases s with
  | nil => cases skip <;> rfl
  | cons c s =>
    obtain rfl : c = '\n' := by simpa using hs
    cases skip with
    | zero =>
      rw [scanFrom, scanFrom, next_lineBreak h]
      rfl
    | succ skip => rw [scanFrom, scanFrom, next_lineBreak h]

theorem scanFrom_skip_add (source : Text) (p : Place) (skip : ℕ) (s t : Text) :
    scanFrom source p (s.length + skip) (s ++ t) =
      scanFrom source (s.foldl Place.next p) skip t := by
  induction s generalizing p with
  | nil => rw [List.length_nil, Nat.zero_add]; rfl
  | cons c s ih =>
    rw [List.length_cons, Nat.add_right_comm]
    exact ih (p.next c)

/-- The first `skip` characters of a text are the end of a macro. -/
def Within (skip : ℕ) (s : Text) : Prop := skip ≤ s.length ∧ ∃ u, IsTail (u ++ s.take skip)

theorem within_zero (s : Text) : Within 0 s := by
  have hempty : IsTail ("index".toList ++ ['{', '}']) :=
    ⟨⟨"index".toList, [], []⟩, ⟨by decide, .inl rfl, rfl⟩, rfl⟩
  exact ⟨Nat.zero_le _, _, by simpa using hempty⟩

theorem Within.drop {skip : ℕ} {s t : Text} (h : Within (s.length + skip) (s ++ t)) :
    Within skip t := by
  obtain ⟨hle, u, hu⟩ := h
  rw [List.length_append] at hle
  refine ⟨by omega, u ++ s, ?_⟩
  rwa [List.take_length_add_append, ← List.append_assoc] at hu

theorem within_of_ofTail? {s : Text} {m : Macro} (h : Macro.ofTail? s = some m) :
    Within m.tail.length s := by
  obtain ⟨hm, rest, rfl⟩ := ofTail?_eq_some_iff.1 h
  exact ⟨by simp, [], m, hm, by simp⟩

theorem scanFrom_of_none (source : Text) (p : Place) {s : Text} (h : Macro.ofTail? s = none) :
    scanFrom source p 0 ('\\' :: s) = scanFrom source (p.next '\\') 0 s := by
  rw [scanFrom, if_pos rfl, h]

theorem scanFrom_of_some (source : Text) (p : Place) {s : Text} {m : Macro}
    (h : Macro.ofTail? s = some m) :
    scanFrom source p 0 ('\\' :: s) =
      (if p.comment then none else m.occurrence? source p.line).toList ++
        scanFrom source (p.next '\\') m.tail.length s := by
  rw [scanFrom, if_pos rfl, h, commented_backslash]

theorem scanFrom_comment (source : Text) {p : Place} (hp : p.comment = true) {s : Text}
    (hs : '\n' ∉ s) {skip : ℕ} {t : Text} (h : Within skip (s ++ t)) : ∃ skip', Within skip' t ∧
      scanFrom source p skip (s ++ t) = scanFrom source (s.foldl Place.next p) skip' t := by
  induction s generalizing p skip with
  | nil => exact ⟨skip, h, rfl⟩
  | cons c s ih =>
    rw [List.mem_cons, not_or] at hs
    have hnext : (p.next c).comment = true :=
      foldl_next_comment hp (s := [c]) (by simpa using hs.1)
    cases skip with
    | succ skip =>
      have hrest : Within skip (s ++ t) := Within.drop (s := [c]) (by rwa [Nat.add_comm])
      exact ih hnext hs.2 hrest
    | zero =>
      by_cases hc : c = '\\'
      · subst hc
        rw [List.cons_append]
        cases hm : Macro.ofTail? (s ++ t) with
        | none =>
          rw [scanFrom_of_none source p hm]
          exact ih hnext hs.2 (within_zero _)
        | some m =>
          rw [scanFrom_of_some source p hm, if_pos hp]
          exact ih hnext hs.2 (within_of_ofTail? hm)
      · rw [List.cons_append, scanFrom, if_neg hc]
        exact ih hnext hs.2 (within_zero _)

theorem getLast?_body {m : Macro} {w : Text} {x : Char} (hx : x ≠ '{')
    (h : m.tail = w ++ [x, '}']) : m.body.getLast? = some x := by
  have hfront : m.name ++ m.option ++ '{' :: m.body = w ++ [x] := by
    refine List.append_cancel_right (?_ : _ ++ ['}'] = _ ++ ['}'])
    simpa [Macro.tail] using h
  have hlast := congrArg List.getLast? hfront
  rw [List.getLast?_append, List.getLast?_cons, List.getLast?_concat] at hlast
  cases hbody : m.body.getLast? with
  | none =>
    rw [hbody] at hlast
    exact absurd (Option.some.inj hlast).symm hx
  | some d =>
    rw [hbody] at hlast
    exact hlast

theorem getLast?_trim {s : Text} {x : Char} (hs : s.getLast? = some x)
    (hx : Text.isBlank x = false) : (Text.trim s).getLast? = some x := by
  have hlast : ∀ c ∈ s.getLast?, Text.isBlank c = false := by
    intro c hc
    rw [hs] at hc
    cases hc
    exact hx
  cases htrim : (Text.trim s).getLast? with
  | none =>
    rw [List.getLast?_eq_none_iff, Text.trim_eq_nil_iff, Text.allBlank, List.all_eq_true] at htrim
    rw [htrim x (List.mem_of_getLast? hs)] at hx
    cases hx
  | some d =>
    have hd := Text.mem_getLast?_of_trim hlast htrim
    rw [hs] at hd
    exact hd.symm

theorem scanFrom_finish (source : Text) {u : Text} {q : Part} (h : Begins u q) (hq : q ≠ .gap)
    {p : Place} (hp : p.comment = false) {x : Char} (hx : x = 'x' ∨ x = 'y') (t : Text) :
    ∃ o rest, scanFrom source p 0 ('\\' :: (u ++ '%' :: q.finish x ++ t)) = o :: rest ∧
      o.markup.getLast? = some x := by
  obtain ⟨hbrace, hblank⟩ : x ≠ '{' ∧ Text.isBlank x = false := by
    rcases hx with rfl | rfl <;> decide
  obtain ⟨m, hm, htail⟩ := h.isTail_finish hq hx
  have hfound : Macro.ofTail? (u ++ '%' :: q.finish x ++ t) = some m :=
    ofTail?_eq_some_iff.2 ⟨hm, by rw [htail]; exact List.prefix_append _ t⟩
  obtain ⟨w, hw⟩ : ∃ w, '%' :: q.finish x = w ++ [x, '}'] := by
    cases q with
    | option | gap => exact ⟨['%', ']', '{'], rfl⟩
    | outer => exact ⟨['%'], rfl⟩
    | inner => exact ⟨['%', '}'], rfl⟩
  have hbody : m.body.getLast? = some x := by
    apply getLast?_body hbrace (w := u ++ w)
    rw [htail, hw, List.append_assoc]
  have htrim : (Text.trim m.body).getLast? = some x := getLast?_trim hbody hblank
  have hne : (Text.trim m.body).isEmpty = false := by
    cases hnil : Text.trim m.body with
    | nil =>
      rw [hnil] at htrim
      cases htrim
    | cons c s => rfl
  rw [scanFrom_of_some source p hfound, hp]
  simp only [Bool.false_eq_true, ↓reduceIte, Macro.occurrence?, hne, Option.toList_some,
    List.singleton_append]
  exact ⟨_, _, rfl, htrim⟩

theorem mem_closings {q : Part} (hq : q ≠ .gap) {x : Char} (hx : x = 'x' ∨ x = 'y') :
    '%' :: q.finish x ∈ closings :=
  List.mem_flatMap.2 ⟨x, by simpa using hx, List.mem_map.2 ⟨q, Part.mem_broken hq, rfl⟩⟩

theorem exists_of_mem_closings {b : Text} (h : b ∈ closings) :
    ∃ q x, b = '%' :: Part.finish x q := by
  obtain ⟨x, -, hb⟩ := List.mem_flatMap.1 h
  obtain ⟨q, -, rfl⟩ := List.mem_map.1 hb
  exact ⟨q, x, rfl⟩

theorem ofTail?_append_of_eq_some {s : Text} {m : Macro} (h : Macro.ofTail? s = some m) (t : Text) :
    Macro.ofTail? (s ++ t) = some m := by
  obtain ⟨hm, hprefix⟩ := ofTail?_eq_some_iff.1 h
  exact ofTail?_eq_some_iff.2 ⟨hm, hprefix.trans (List.prefix_append s t)⟩

theorem ofTail?_append_cases {s t : Text} {m : Macro} (h : Macro.ofTail? (s ++ t) = some m) :
    Macro.ofTail? s = some m ∨ ∃ c w, IsTail (s ++ c :: w) ∧ c :: w <+: t ∧
      m.tail = s ++ c :: w := by
  obtain ⟨hm, rest, hrest⟩ := ofTail?_eq_some_iff.1 h
  rcases List.append_eq_append_iff.1 hrest with ⟨u, rfl, -⟩ | ⟨u, hu, rfl⟩
  · exact .inl (ofTail?_append hm u)
  · cases u with
    | nil =>
      left
      rw [List.append_nil] at hu
      have hself := ofTail?_append hm []
      rwa [List.append_nil, hu] at hself
    | cons c w => exact .inr ⟨c, w, ⟨m, hm, hu⟩, List.prefix_append _ _, hu⟩

theorem ofTail?_eq_none_of_closings (source : Text) {p : Place} (hp : p.comment = false)
    {s t : Text} (hs : Macro.ofTail? s = none)
    (h : ∀ a ∈ closings, ∀ b ∈ closings, scanFrom source p 0 ('\\' :: s ++ (a ++ t)) =
      scanFrom source p 0 ('\\' :: s ++ (b ++ t))) (r : Text) :
    Macro.ofTail? (s ++ '%' :: r) = none := by
  rw [Option.eq_none_iff_forall_ne_some]
  intro m hm
  rcases ofTail?_append_cases hm with hself | ⟨d, w, htail, hprefix, -⟩
  · rw [hs] at hself
    cases hself
  · obtain ⟨rfl, -⟩ := List.cons_prefix_cons.1 hprefix
    obtain ⟨q, hq, hbegins⟩ := htail.begins (by decide)
    obtain ⟨o, rest, hx, hxlast⟩ := scanFrom_finish source hbegins hq hp (x := 'x') (by decide) t
    obtain ⟨o', rest', hy, hylast⟩ := scanFrom_finish source hbegins hq hp (x := 'y') (by decide) t
    have heq := h _ (mem_closings hq (x := 'x') (by decide)) _
      (mem_closings hq (x := 'y') (by decide))
    simp only [List.cons_append, List.append_assoc] at heq hx hy
    rw [hx, hy] at heq
    obtain ⟨rfl, -⟩ := List.cons_eq_cons.1 heq
    rw [hxlast] at hylast
    cases hylast

theorem scanFrom_before_comment (source : Text) {s t : Text} {p : Place} (hp : p.comment = false)
    (hs : GuardedFrom isPercent backslash p.prev s) {skip : ℕ} (hskip : skip ≤ s.length)
    (h : ∀ a ∈ closings, ∀ b ∈ closings,
      scanFrom source p skip (s ++ (a ++ t)) = scanFrom source p skip (s ++ (b ++ t))) (r : Text) :
    scanFrom source p skip (s ++ '%' :: r) =
      scanFrom source p skip s ++ scanFrom source (s.foldl Place.next p) 0 ('%' :: r) := by
  induction s generalizing p skip with
  | nil =>
    obtain rfl : skip = 0 := Nat.le_zero.1 hskip
    rfl
  | cons c s ih =>
    have hprev : (p.next c).prev = some c := foldl_next_prev p [c]
    have hlive : (p.next c).comment = false := next_live hp hs.1
    have hrest : GuardedFrom isPercent backslash (p.next c).prev s := hprev ▸ hs.2
    cases skip with
    | succ skip => exact ih hlive hrest (Nat.le_of_succ_le_succ hskip) h
    | zero =>
      by_cases hc : c = '\\'
      · subst hc
        cases hm : Macro.ofTail? s with
        | some m =>
          have hlength : m.tail.length ≤ s.length := (ofTail?_eq_some_iff.1 hm).2.length_le
          have hstep := fun u ↦ scanFrom_of_some source p (ofTail?_append_of_eq_some hm u)
          simp only [List.cons_append, hstep, List.append_cancel_left_eq] at h
          rw [List.cons_append, hstep, scanFrom_of_some source p hm, List.append_assoc]
          exact congrArg _ (ih hlive hrest hlength h)
        | none =>
          have hnone := ofTail?_eq_none_of_closings source hp hm h
          have hstep := fun u ↦ scanFrom_of_none source p (hnone u)
          rw [List.cons_append, hstep, scanFrom_of_none source p hm]
          apply ih hlive hrest (Nat.zero_le _)
          intro a ha b hb
          have heq := h a ha b hb
          obtain ⟨_, _, rfl⟩ := exists_of_mem_closings ha
          obtain ⟨_, _, rfl⟩ := exists_of_mem_closings hb
          simp only [List.cons_append, hstep] at heq
          exact heq
      · have hstep : ∀ u, scanFrom source p 0 (c :: u) = scanFrom source (p.next c) 0 u := by
          intro u
          rw [scanFrom, if_neg hc]
        simp only [List.cons_append, hstep] at h ⊢
        exact ih hlive hrest (Nat.zero_le _) h

theorem scanFrom_without_backslash (source : Text) (p : Place) (skip : ℕ) {s : Text}
    (h : '\\' ∉ s) : scanFrom source p skip s = [] := by
  induction s generalizing p skip with
  | nil => cases skip <;> rfl
  | cons c s ih =>
    rw [List.mem_cons, not_or] at h
    cases skip with
    | succ skip => exact ih (p.next c) skip h.2
    | zero =>
      rw [scanFrom, if_neg (Ne.symm h.1)]
      exact ih (p.next c) 0 h.2

theorem not_mem_closing {b : Text} (h : b ∈ closings) : '\\' ∉ b ∧ '\n' ∉ b := by
  have hall : ∀ b ∈ closings, '\\' ∉ b ∧ '\n' ∉ b := by decide
  exact hall b h

theorem not_mem_begun {q : Part} (hq : q ≠ .gap) :
    '\\' ∉ q.begun ∧ '\n' ∉ q.begun ∧ Macro.ofTail? q.begun = none := by
  have hall : ∀ q ∈ Part.broken,
      '\\' ∉ q.begun ∧ '\n' ∉ q.begun ∧ Macro.ofTail? q.begun = none := by decide
  exact hall q (Part.mem_broken hq)

theorem line_behind_opening (line : ℕ) {q : Part} (hq : q ≠ .gap) :
    (q.begun.foldl Place.next (((atLine line).next '%').next '\\')).line = (atLine line).line := by
  rw [foldl_next_line, List.count_eq_zero_of_not_mem (not_mem_begun hq).2.1]
  rfl

theorem scanFrom_opening_of_isTail (source : Text) (line : ℕ) {q : Part} (hq : q ≠ .gap)
    {w s : Text} (htail : IsTail (q.begun ++ w)) (hw : w <+: s)
    (hs : s.head? = some '\n' ∨ s = []) :
    scanFrom source (atLine line) 0 ('%' :: '\\' :: q.begun ++ s) =
      scanFrom source (atLine line) w.length s := by
  obtain ⟨m, hm, htail⟩ := htail
  obtain ⟨t, rfl⟩ := hw
  have hfound : Macro.ofTail? (q.begun ++ (w ++ t)) = some m := by
    rw [← List.append_assoc, ← htail]
    exact ofTail?_append hm t
  have hin : ((atLine line).next '%').comment = true := rfl
  calc
    scanFrom source (atLine line) 0 ('%' :: '\\' :: q.begun ++ (w ++ t)) =
        scanFrom source ((atLine line).next '%') 0 ('\\' :: (q.begun ++ (w ++ t))) := rfl
    _ = scanFrom source (((atLine line).next '%').next '\\') (q.begun.length + w.length)
          (q.begun ++ (w ++ t)) := by
      rw [scanFrom_of_some source _ hfound, if_pos hin, htail, List.length_append]
      rfl
    _ = scanFrom source (atLine line) w.length (w ++ t) := by
      rw [scanFrom_skip_add]
      exact scanFrom_congr source (line_behind_opening line hq) w.length hs

theorem scanFrom_opening_of_none (source : Text) (line : ℕ) {q : Part} (hq : q ≠ .gap) {s : Text}
    (hnone : Macro.ofTail? (q.begun ++ s) = none) (hs : s.head? = some '\n' ∨ s = []) :
    scanFrom source (atLine line) 0 ('%' :: '\\' :: q.begun ++ s) =
      scanFrom source (atLine line) 0 s := by
  calc
    scanFrom source (atLine line) 0 ('%' :: '\\' :: q.begun ++ s) =
        scanFrom source ((atLine line).next '%') 0 ('\\' :: (q.begun ++ s)) := rfl
    _ = scanFrom source (((atLine line).next '%').next '\\') 0 (q.begun ++ s) :=
      scanFrom_of_none source _ hnone
    _ = scanFrom source (atLine line) 0 s := by
      rw [scanFrom_filler source _ (not_mem_begun hq).1]
      exact scanFrom_congr source (line_behind_opening line hq) 0 hs

theorem exists_begun {u r : Text} (h : IsTail (u ++ '\n' :: r)) :
    ∃ q, q ≠ Part.gap ∧ Begins u q ∧ IsTail (q.begun ++ '\n' :: r) := by
  obtain ⟨q, hq, hu⟩ := h.begins (by decide)
  exact ⟨q, hq, hu, hu.isTail_congr (begins_begun hq) (by simp) h⟩

theorem mem_openings {q : Part} (hq : q ≠ .gap) : '%' :: '\\' :: q.begun ∈ openings :=
  List.mem_map.2 ⟨q, Part.mem_broken hq, rfl⟩

theorem scanFrom_length (source : Text) (p : Place) (s : Text) :
    scanFrom source p s.length s = [] := by
  have h := scanFrom_skip source p s []
  rwa [List.append_nil] at h

section

variable {source : Text} {line : ℕ} {before : List Text} {s r : Text}

theorem scanFrom_within {after : List Text}
    (h : ∀ a ∈ before, ∀ b ∈ after,
      scanFrom source (atLine line) 0 (a ++ s ++ b) = scanFrom source (atLine line) 0 s)
    (hbefore : [] ∈ before) {skip : ℕ} (hle : skip ≤ s.length)
    (hskip : skip = 0 ∨ s.head? = some '\n' ∧ openings ⊆ before) (hwithin : Within skip (s ++ r))
    {b : Text} (hb : b ∈ after) :
    scanFrom source (atLine line) skip (s ++ b) = scanFrom source (atLine line) 0 s := by
  by_cases hzero : skip = 0
  · subst hzero
    exact h [] hbefore b hb
  · obtain ⟨hs, hopenings⟩ := hskip.resolve_left hzero
    obtain ⟨t, rfl⟩ := List.head?_eq_some_iff.1 hs
    obtain ⟨n, rfl⟩ := Nat.exists_eq_succ_of_ne_zero hzero
    obtain ⟨-, u, hu⟩ := hwithin
    rw [List.take_append_of_le_length hle, List.take_succ_cons] at hu
    obtain ⟨q, hq, -, htail⟩ := exists_begun hu
    have hfront : '\n' :: t.take n <+: '\n' :: t ++ b :=
      (List.take_prefix (n + 1) ('\n' :: t)).trans (List.prefix_append _ b)
    have hopening := h _ (hopenings (mem_openings hq)) b hb
    rw [List.append_assoc, scanFrom_opening_of_isTail source line hq htail hfront (.inl rfl),
      List.length_cons, List.length_take_of_le (Nat.le_of_succ_le_succ hle)] at hopening
    exact hopening

variable (h : ∀ a ∈ before, ∀ b ∈ closings,
    scanFrom source (atLine line) 0 (a ++ s ++ b) = scanFrom source (atLine line) 0 s)

include h

theorem scanFrom_inside (hs : s.head? = some '\n') (hopenings : openings ⊆ before) {u : Text}
    (hu : IsTail (u ++ (s ++ '%' :: r))) : scanFrom source (atLine line) 0 s = [] := by
  obtain ⟨t, rfl⟩ := List.head?_eq_some_iff.1 hs
  obtain ⟨q, hq, -, htail⟩ := exists_begun hu
  have hbroken : IsTail ((q.begun ++ '\n' :: t) ++ '%' :: r) := by
    rw [List.append_assoc]
    exact htail
  obtain ⟨q', hq', hbegins⟩ := hbroken.begins (by decide)
  have hfinish := hbegins.isTail_finish hq' (x := 'x') (by decide)
  rw [List.append_assoc] at hfinish
  have hopening := h _ (hopenings (mem_openings hq)) _ (mem_closings hq' (x := 'x') (by decide))
  rw [List.append_assoc, scanFrom_opening_of_isTail source line hq hfinish (List.prefix_refl _)
    (.inl rfl), scanFrom_length] at hopening
  exact hopening.symm

theorem scanFrom_settled (hs : Guarded isPercent backslash s) (hbefore : [] ∈ before) {skip : ℕ}
    (hskip : skip = 0 ∨ s.head? = some '\n' ∧ openings ⊆ before)
    (hwithin : Within skip (s ++ '%' :: r)) :
    ∃ skip', Within skip' ('%' :: r) ∧ scanFrom source (atLine line) skip (s ++ '%' :: r) =
      scanFrom source (atLine line) 0 s ++
        scanFrom source (s.foldl Place.next (atLine line)) skip' ('%' :: r) := by
  by_cases hle : skip ≤ s.length
  · have htests := fun b hb ↦ scanFrom_within h hbefore hle hskip hwithin (b := b) hb
    have hthrough := scanFrom_before_comment source (t := []) (p := atLine line) rfl hs hle (by
      intro a ha b hb
      rw [List.append_nil, List.append_nil, htests a ha, htests b hb])
    have hself : scanFrom source (atLine line) skip s = scanFrom source (atLine line) 0 s := by
      have hb := mem_closings (q := .outer) nofun (x := 'x') (by decide)
      have hclosed := hthrough (Part.outer.finish 'x')
      rw [htests _ hb, scanFrom_without_backslash source _ 0 (not_mem_closing hb).1,
        List.append_nil] at hclosed
      exact hclosed.symm
    exact ⟨0, within_zero _, by rw [hthrough, hself]⟩
  · obtain ⟨skip, rfl⟩ : ∃ k, skip = s.length + (k + 1) := ⟨skip - s.length - 1, by omega⟩
    obtain ⟨hhead, hopenings⟩ := hskip.resolve_left (by omega)
    have ⟨_, u, hu⟩ := hwithin
    rw [List.take_length_add_append, List.take_succ_cons] at hu
    refine ⟨skip + 1, hwithin.drop, ?_⟩
    rw [scanFrom_inside h hhead hopenings hu, scanFrom_skip_add, List.nil_append]

end

def scanEach (source : Text) : (line : ℕ) → List Text → List Occurrence
  | _, [] => []
  | line, s :: rest =>
    scanFrom source (atLine line) 0 s ++ scanEach source (line + s.count '\n') rest

theorem next_percent_congr {p p' : Place} (h : p.line = p'.line) (hp : p.prev ≠ some '\\')
    (hp' : p'.prev ≠ some '\\') : p.next '%' = p'.next '%' := by
  have hstart : (p.prev != some '\\') = true := by simpa using hp
  have hstart' : (p'.prev != some '\\') = true := by simpa using hp'
  simp [Place.next, Place.commented, h, hstart, hstart']

theorem next_behind (line : ℕ) {s : Text} (hs : s.getLast? ≠ some '\\') :
    (s.foldl Place.next (atLine line)).next '%' = (atLine (line + s.count '\n')).next '%' :=
  next_percent_congr (foldl_next_line _ _) (prev_ne_backslash line hs) nofun

theorem scanFrom_percent (source : Text) (p : Place) {skip : ℕ} {s : Text}
    (h : Within skip ('%' :: s)) :
    ∃ skip', Within skip' s ∧
      scanFrom source p skip ('%' :: s) = scanFrom source (p.next '%') skip' s := by
  cases skip with
  | zero => exact ⟨0, within_zero s, rfl⟩
  | succ skip => exact ⟨skip, Within.drop (s := ['%']) (by rwa [Nat.add_comm]), rfl⟩

theorem line_behind_comment (line : ℕ) {comment : Text} (h : '\n' ∉ comment) :
    (comment.foldl Place.next ((atLine line).next '%')).line = (atLine line).line := by
  rw [foldl_next_line, List.count_eq_zero_of_not_mem h]
  rfl

theorem scanFrom_withComments (source : Text) (line : ℕ) {before : List Text} {s : Text}
    {parts : List (Text × Text)} (hparts : Separated s parts)
    (h : Settled source line before (s :: parts.map Prod.snd)) (hbefore : [] ∈ before) {skip : ℕ}
    (hskip : skip = 0 ∨ s.head? = some '\n' ∧ openings ⊆ before)
    (hwithin : Within skip (withComments s parts)) :
    scanFrom source (atLine line) skip (withComments s parts) =
      scanEach source line (s :: parts.map Prod.snd) := by
  induction parts generalizing line before s skip with
  | nil =>
    have hnil : withComments s [] = s := List.append_nil s
    rw [hnil] at hwithin ⊢
    have hself := scanFrom_within (r := []) h.1 hbefore hwithin.1 hskip (by rwa [List.append_nil])
      (List.mem_singleton_self [])
    rw [List.append_nil] at hself
    rw [hself]
    exact (List.append_nil _).symm
  | cons q parts ih =>
    obtain ⟨comment, t⟩ := q
    obtain ⟨hs, hlast, hcomment, hnext, hrest⟩ := hparts
    obtain ⟨htests, hsettled⟩ := h
    let next := (atLine (line + s.count '\n')).next '%'
    have hin : next.comment = true := rfl
    rw [withComments_cons] at hwithin ⊢
    obtain ⟨skip₁, hwithin₁, hscan₁⟩ := scanFrom_settled htests hs hbefore hskip hwithin
    obtain ⟨skip₂, hwithin₂, hscan₂⟩ :=
      scanFrom_percent source (s.foldl Place.next (atLine line)) hwithin₁
    rw [next_behind line hlast] at hscan₂
    obtain ⟨skip₃, hwithin₃, hscan₃⟩ := scanFrom_comment source hin hcomment hwithin₂
    have hhead := head?_withComments_iff.2 hnext
    have hskip₃ : skip₃ = 0 ∨ t.head? = some '\n' ∧ openings ⊆ [] :: openings := by
      rcases hnext with ht | ⟨rfl, rfl⟩
      · exact .inr ⟨ht, List.subset_cons_self _ _⟩
      · exact .inl (Nat.le_zero.1 hwithin₃.1)
    rw [hscan₁, hscan₂, hscan₃, scanFrom_congr source (line_behind_comment _ hcomment) skip₃ hhead,
      ih _ hrest hsettled List.mem_cons_self hskip₃ hwithin₃]
    rfl

end BookIndex.Tex
