import BookIndex.Proofs.Tex.Recognized

namespace BookIndex.Tex

/-- Where in a macro a reader stands: in the option, behind it, or in the body outside or inside of
inner braces. -/
inductive Part where
  | option | gap | outer | inner
  deriving DecidableEq, Repr

namespace Part

def next? : Part → Char → Option Part
  | option, c => some (if c = ']' then gap else option)
  | gap, c => if c = '{' then some outer else none
  | outer, c => if c = '{' then some inner else if c = '}' then none else some outer
  | inner, c => if c = '}' then some outer else if c = '{' then none else some inner

def run (q : Part) (s : Text) : Option Part := s.foldlM next? q

def opened? (c : Char) : Option Part :=
  if c = '[' then some option else if c = '{' then some outer else none

theorem run_append (q : Part) (s t : Text) : q.run (s ++ t) = (q.run s).bind fun q' ↦ q'.run t :=
  List.foldlM_append

theorem run_cons (q : Part) (c : Char) (s : Text) :
    q.run (c :: s) = (q.next? c).bind fun q' ↦ q'.run s :=
  rfl

theorem run_body (inner : Bool) (s : Text) :
    (if inner then Part.inner else outer).run s = some outer ↔ balanced 1 inner.toNat s = true := by
  induction s generalizing inner with
  | nil => cases inner <;> simp [run, balanced]
  | cons c s ih =>
    rw [run_cons, balanced]
    by_cases hopen : c = '{'
    · subst hopen
      cases inner with
      | false => simpa [next?] using ih true
      | true => simp [next?]
    · by_cases hclose : c = '}'
      · subst hclose
        cases inner with
        | false => simp [next?]
        | true => simpa [next?] using ih false
      · cases inner with
        | false => simpa [next?, hopen, hclose] using ih false
        | true => simpa [next?, hopen, hclose] using ih true

theorem run_option {s : Text} (h : ']' ∉ s) : option.run s = some option := by
  induction s with
  | nil => rfl
  | cons c s ih =>
    rw [List.mem_cons, not_or] at h
    rw [run_cons, next?, if_neg (Ne.symm h.1)]
    exact ih h.2

theorem run_option_eq_outer_iff {s : Text} : option.run s = some outer ↔
    ∃ t b, s = t ++ ']' :: '{' :: b ∧ ']' ∉ t ∧ outer.run b = some outer := by
  constructor
  · intro h
    by_cases hclose : ']' ∈ s
    · obtain ⟨t, rest, rfl, ht⟩ := List.eq_append_cons_of_mem hclose
      rw [run_append, run_option ht, Option.bind_some, run_cons, next?, if_pos rfl,
        Option.bind_some] at h
      cases rest with
      | nil => cases h
      | cons c b =>
        rw [run_cons, next?] at h
        split at h
        · rename_i hc
          subst hc
          exact ⟨t, b, rfl, ht, h⟩
        · cases h
    · rw [run_option hclose] at h
      cases h
  · intro h
    obtain ⟨t, b, rfl, ht, hb⟩ := h
    rw [run_append, run_option ht]
    exact hb

end Part

/-- A text at the beginning of what stands behind the backslash of a macro; it ends in a part. -/
def Begins (u : Text) (q : Part) : Prop :=
  ∃ name ∈ macroNames, ∃ c q₀ v, u = name ++ c :: v ∧ Part.opened? c = some q₀ ∧ q₀.run v = some q

def IsTail (t : Text) : Prop := ∃ m : Macro, m.WellFormed ∧ m.tail = t

theorem isTail_iff {t : Text} : IsTail t ↔ ∃ u, t = u ++ ['}'] ∧ Begins u .outer := by
  constructor
  · intro h
    obtain ⟨m, hm, rfl⟩ := h
    have hbody : Part.outer.run m.body = some .outer := (Part.run_body false m.body).2 hm.body
    rcases hm.option with hoption | ⟨s, hoption, hs⟩
    · exact ⟨m.name ++ '{' :: m.body, by simp [Macro.tail, hoption], m.name, hm.name, '{', .outer,
        m.body, rfl, rfl, hbody⟩
    · refine ⟨m.name ++ '[' :: (s ++ ']' :: '{' :: m.body), by simp [Macro.tail, hoption], m.name,
        hm.name, '[', .option, _, rfl, rfl, ?_⟩
      exact Part.run_option_eq_outer_iff.2 ⟨s, m.body, rfl, hs, hbody⟩
  · intro h
    obtain ⟨u, rfl, name, hname, c, q₀, v, rfl, hc, hv⟩ := h
    unfold Part.opened? at hc
    split at hc
    · rename_i hbracket
      subst hbracket
      cases hc
      obtain ⟨s, b, rfl, hs, hb⟩ := Part.run_option_eq_outer_iff.1 hv
      refine ⟨⟨name, '[' :: s ++ [']'], b⟩, ⟨hname, .inr ⟨s, rfl, hs⟩, ?_⟩, by simp [Macro.tail]⟩
      exact (Part.run_body false b).1 hb
    · split at hc
      · rename_i hbrace
        subst hbrace
        cases hc
        exact ⟨⟨name, [], v⟩, ⟨hname, .inl rfl, (Part.run_body false v).1 hv⟩, by simp [Macro.tail]⟩
      · cases hc

theorem opened?_eq_none_of_mem {name : Text} (h : name ∈ macroNames) :
    ∀ c ∈ name, Part.opened? c = none := by
  have hnames : ∀ n ∈ macroNames, '[' ∉ n ∧ '{' ∉ n := by decide
  intro c hc
  have hbracket : c ≠ '[' := by
    rintro rfl
    exact (hnames name h).1 hc
  have hbrace : c ≠ '{' := by
    rintro rfl
    exact (hnames name h).2 hc
  rw [Part.opened?, if_neg hbracket, if_neg hbrace]

theorem append_cons_inj_of_opened {s s' t t' : Text} {c c' : Char}
    (hs : ∀ d ∈ s, Part.opened? d = none) (hs' : ∀ d ∈ s', Part.opened? d = none)
    (hc : Part.opened? c ≠ none) (hc' : Part.opened? c' ≠ none) (h : s ++ c :: t = s' ++ c' :: t') :
    s = s' ∧ c = c' ∧ t = t' := by
  induction s generalizing s' with
  | nil =>
    cases s' with
    | nil => exact ⟨rfl, List.cons_eq_cons.1 h⟩
    | cons d s' =>
      obtain ⟨rfl, -⟩ := List.cons_eq_cons.1 h
      exact absurd (hs' c List.mem_cons_self) hc
  | cons a s ih =>
    cases s' with
    | nil =>
      obtain ⟨rfl, -⟩ := List.cons_eq_cons.1 h
      exact absurd (hs a List.mem_cons_self) hc'
    | cons d s' =>
      obtain ⟨rfl, hrest⟩ := List.cons_eq_cons.1 h
      obtain ⟨rfl, hct⟩ := ih (fun d hd ↦ hs d (List.mem_cons_of_mem a hd))
        (fun d hd ↦ hs' d (List.mem_cons_of_mem a hd)) hrest
      exact ⟨rfl, hct⟩

theorem Begins.append_iff {u : Text} {q : Part} (h : Begins u q) (s : Text) (q' : Part) :
    Begins (u ++ s) q' ↔ q.run s = some q' := by
  obtain ⟨name, hname, c, q₀, v, rfl, hc, hv⟩ := h
  constructor
  · intro h'
    obtain ⟨name', hname', c', q₁, v', hsplit, hc', hv'⟩ := h'
    rw [List.append_assoc, List.cons_append] at hsplit
    obtain ⟨-, rfl, rfl⟩ := append_cons_inj_of_opened (opened?_eq_none_of_mem hname)
      (opened?_eq_none_of_mem hname') (by simp [hc]) (by simp [hc']) hsplit
    rw [hc] at hc'
    cases hc'
    rwa [Part.run_append, hv] at hv'
  · intro hs
    refine ⟨name, hname, c, q₀, v ++ s, by simp, hc, ?_⟩
    rw [Part.run_append, hv]
    exact hs

theorem Begins.isTail_iff {u : Text} {q : Part} (h : Begins u q) (s : Text) :
    IsTail (u ++ s ++ ['}']) ↔ q.run s = some .outer := by
  rw [Tex.isTail_iff, ← h.append_iff]
  constructor
  · intro h'
    obtain ⟨u', hsplit, hu'⟩ := h'
    rwa [List.append_cancel_right hsplit]
  · intro h'
    exact ⟨u ++ s, rfl, h'⟩

theorem Begins.isTail_congr {u u' : Text} {q : Part} (h : Begins u q) (h' : Begins u' q) {r : Text}
    (hr : r ≠ []) (htail : IsTail (u ++ r)) : IsTail (u' ++ r) := by
  obtain ⟨v, hsplit, -⟩ := Tex.isTail_iff.1 htail
  obtain ⟨s, c, rfl⟩ : ∃ s c, r = s ++ [c] :=
    ⟨r.dropLast, r.getLast hr, (List.dropLast_append_getLast hr).symm⟩
  obtain rfl : c = '}' := by
    have hlast := congrArg List.getLast? hsplit
    simpa using hlast
  rw [← List.append_assoc, h.isTail_iff] at htail
  rw [← List.append_assoc, h'.isTail_iff]
  exact htail

theorem IsTail.begins {u w : Text} {c : Char} (hc : c = '\n' ∨ c = '%')
    (h : IsTail (u ++ c :: w)) : ∃ q, q ≠ .gap ∧ Begins u q := by
  have hnames : ∀ n ∈ macroNames, c ∉ n := by
    rcases hc with rfl | rfl <;> decide
  obtain ⟨hopened, hbrace, hclose⟩ : Part.opened? c = none ∧ c ≠ '{' ∧ c ≠ '}' := by
    rcases hc with rfl | rfl <;> decide
  obtain ⟨u', hsplit, name, hname, d, q₀, v, rfl, hd, hv⟩ := Tex.isTail_iff.1 h
  have hcd : c ≠ d := by
    rintro rfl
    simp [hopened] at hd
  have hbehind : ∃ v₁, u = name ++ d :: v₁ ∧ v ++ ['}'] = v₁ ++ c :: w := by
    rw [List.append_assoc] at hsplit
    rcases List.append_eq_append_iff.1 hsplit with ⟨t, ht, hrest⟩ | ⟨t, ht, hrest⟩
    · cases t with
      | nil => exact absurd (List.cons_eq_cons.1 hrest).1 hcd
      | cons e t =>
        obtain ⟨rfl, -⟩ := List.cons_eq_cons.1 hrest
        exact absurd (by simp [ht]) (hnames name hname)
    · cases t with
      | nil => exact absurd (List.cons_eq_cons.1 hrest).1.symm hcd
      | cons e t =>
        obtain ⟨rfl, hv₁⟩ := List.cons_eq_cons.1 hrest
        exact ⟨t, ht, hv₁⟩
  obtain ⟨v₁, rfl, hv₁⟩ := hbehind
  have hinside : ∃ v₂, v = v₁ ++ c :: v₂ := by
    rcases List.append_eq_append_iff.1 hv₁ with ⟨t, -, ht⟩ | ⟨t, rfl, ht⟩
    · cases t with
      | nil => exact absurd (List.cons_eq_cons.1 ht).1.symm hclose
      | cons e t => simp at ht
    · cases t with
      | nil => exact absurd (List.cons_eq_cons.1 ht).1 hclose
      | cons e t =>
        obtain ⟨rfl, -⟩ := List.cons_eq_cons.1 ht
        exact ⟨t, rfl⟩
  obtain ⟨v₂, rfl⟩ := hinside
  rw [Part.run_append] at hv
  obtain ⟨q, hq, hrest⟩ := Option.bind_eq_some_iff.1 hv
  refine ⟨q, ?_, name, hname, d, q₀, v₁, rfl, hd, hq⟩
  rintro rfl
  rw [Part.run_cons, Part.next?, if_neg hbrace] at hrest
  cases hrest

namespace Part

def broken : List Part := [option, outer, inner]

theorem mem_broken {q : Part} (h : q ≠ gap) : q ∈ broken := by
  cases q with
  | gap => exact absurd rfl h
  | option | outer | inner => decide

def begun : Part → Text
  | option | gap => "index[".toList
  | outer => "index\x7b".toList
  | inner => "index\x7b\x7b".toList

def finish (x : Char) : Part → Text
  | option | gap => ']' :: '{' :: [x, '}']
  | outer => [x, '}']
  | inner => '}' :: [x, '}']

end Part

theorem begins_begun {q : Part} (h : q ≠ .gap) : Begins q.begun q := by
  have hname : "index".toList ∈ macroNames := by decide
  cases q with
  | gap => exact absurd rfl h
  | option => exact ⟨_, hname, '[', .option, [], rfl, rfl, rfl⟩
  | outer => exact ⟨_, hname, '{', .outer, [], rfl, rfl, rfl⟩
  | inner => exact ⟨_, hname, '{', .outer, ['{'], rfl, rfl, rfl⟩

theorem Begins.isTail_finish {u : Text} {q : Part} (h : Begins u q) (hq : q ≠ .gap) {x : Char}
    (hx : x = 'x' ∨ x = 'y') : IsTail (u ++ '%' :: q.finish x) := by
  have hfinish : ∃ s, '%' :: q.finish x = s ++ ['}'] ∧ q.run s = some .outer := by
    cases q with
    | gap => exact absurd rfl hq
    | option => exact ⟨['%', ']', '{', x], rfl, by rcases hx with rfl | rfl <;> rfl⟩
    | outer => exact ⟨['%', x], rfl, by rcases hx with rfl | rfl <;> rfl⟩
    | inner => exact ⟨['%', '}', x], rfl, by rcases hx with rfl | rfl <;> rfl⟩
  obtain ⟨s, hs, hrun⟩ := hfinish
  rw [hs, ← List.append_assoc]
  exact (h.isTail_iff s).2 hrun

end BookIndex.Tex
