import BookIndex.Proofs.Text.Lemmas

namespace BookIndex.Tex

/-- What is known of the braces of a text that has been read so far. -/
structure Braces where
  /-- How many braces are open. -/
  depth : ℕ
  /-- Whether a backslash takes the next character with it. -/
  taken : Bool
  deriving DecidableEq

def braceSigns : List Char := ['\\', '{', '}']

namespace Braces

def step (b : Braces) (c : Char) : Option Braces :=
  if b.taken then some ⟨b.depth, false⟩
  else if c = '\\' then some ⟨b.depth, true⟩
  else if c = '{' then some ⟨b.depth + 1, false⟩
  else if c = '}' then if b.depth = 0 then none else some ⟨b.depth - 1, false⟩
  else some b

def run (b : Braces) (s : Text) : Option Braces := s.foldlM step b

theorem step_of_not_sign {c : Char} (hc : c ∉ braceSigns) (b : Braces) :
    b.step c = some ⟨b.depth, false⟩ := by
  simp only [braceSigns, List.mem_cons, List.not_mem_nil, or_false, not_or] at hc
  obtain ⟨n, taken⟩ := b
  cases taken with
  | true => rfl
  | false => simp [step, hc]

theorem run_cons (b : Braces) (c : Char) (s : Text) :
    b.run (c :: s) = (b.step c).bind fun b ↦ b.run s := by
  rw [run, List.foldlM_cons]
  rfl

theorem run_append (b : Braces) (s t : Text) :
    b.run (s ++ t) = (b.run s).bind fun b ↦ b.run t := by
  rw [run, List.foldlM_append]
  rfl

theorem step_add {n m : ℕ} {taken taken' : Bool} {c : Char}
    (h : step ⟨n, taken⟩ c = some ⟨m, taken'⟩) (k : ℕ) :
    step ⟨n + k, taken⟩ c = some ⟨m + k, taken'⟩ := by
  unfold step at h ⊢
  grind

theorem run_add {s : Text} {n m : ℕ} {taken taken' : Bool}
    (h : run ⟨n, taken⟩ s = some ⟨m, taken'⟩) (k : ℕ) :
    run ⟨n + k, taken⟩ s = some ⟨m + k, taken'⟩ := by
  induction s generalizing n taken with
  | nil =>
    cases h
    rfl
  | cons c s ih =>
    rw [run_cons] at h ⊢
    obtain ⟨⟨i, t⟩, hstep, hrun⟩ := Option.bind_eq_some_iff.1 h
    rw [step_add hstep k]
    exact ih hrun

theorem step_of_ne {c : Char} (hc : c ≠ '\\') (n : ℕ) :
    step ⟨n, false⟩ c = none ∨ ∃ m, step ⟨n, false⟩ c = some ⟨m, false⟩ := by
  unfold step
  grind

theorem run_flatMap {f : Char → Text} {s : Text} (hs : '\\' ∉ s)
    (hf : ∀ c ∈ s, ∀ n, run ⟨n, false⟩ (f c) = step ⟨n, false⟩ c) (n : ℕ) :
    run ⟨n, false⟩ (s.flatMap f) = run ⟨n, false⟩ s := by
  induction s generalizing n with
  | nil => rfl
  | cons c s ih =>
    rw [List.flatMap_cons, run_append, run_cons, hf c List.mem_cons_self]
    rcases step_of_ne (Ne.symm (List.ne_of_not_mem_cons hs)) n with hc | ⟨m, hc⟩
    · rw [hc]
      rfl
    · rw [hc]
      exact ih (List.not_mem_of_not_mem_cons hs) (fun d hd ↦ hf d (List.mem_cons_of_mem c hd)) m

end Braces

def depthBehind? (n : ℕ) (s : Text) : Option ℕ := (Braces.run ⟨n, false⟩ s).map Braces.depth

/-- Read from left to right, every closing brace of a text closes one, and none is left open. -/
def BracesMatch (s : Text) : Prop := depthBehind? 0 s = some 0

instance (s : Text) : Decidable (BracesMatch s) :=
  inferInstanceAs (Decidable (depthBehind? 0 s = some 0))

theorem BracesMatch.depthBehind? {s : Text} (h : BracesMatch s) (n : ℕ) :
    depthBehind? n s = some n := by
  obtain ⟨⟨m, taken⟩, hrun, hm⟩ := Option.map_eq_some_iff.1 h
  obtain rfl : m = 0 := hm
  have hn := Braces.run_add hrun n
  rw [Nat.zero_add] at hn
  rw [Tex.depthBehind?, hn]
  rfl

theorem depthBehind?_append_cons {c : Char} (hc : c ∉ braceSigns) (n : ℕ) (s t : Text) :
    depthBehind? n (s ++ c :: t) = (depthBehind? n s).bind fun m ↦ depthBehind? m t := by
  rw [depthBehind?, depthBehind?, Braces.run_append]
  cases Braces.run ⟨n, false⟩ s with
  | none => rfl
  | some b =>
    rw [Option.bind_some, Braces.run_cons, Braces.step_of_not_sign hc]
    rfl

theorem depthBehind?_append {s : Text} (hs : '\\' ∉ s) (n : ℕ) (t : Text) :
    depthBehind? n (s ++ t) = (depthBehind? n s).bind fun m ↦ depthBehind? m t := by
  induction s generalizing n with
  | nil => rfl
  | cons c s ih =>
    rw [depthBehind?, depthBehind?, List.cons_append, Braces.run_cons, Braces.run_cons]
    rcases Braces.step_of_ne (Ne.symm (List.ne_of_not_mem_cons hs)) n with hc | ⟨m, hc⟩
    · rw [hc]
      rfl
    · rw [hc]
      exact ih (List.not_mem_of_not_mem_cons hs) m

theorem depthBehind?_intercalate {c : Char} (hc : c ∉ braceSigns) (n : ℕ) (parts : List Text) :
    depthBehind? n ([c].intercalate parts) = parts.foldlM depthBehind? n := by
  induction parts generalizing n with
  | nil => rfl
  | cons p parts ih =>
    cases parts with
    | nil =>
      rw [List.intercalate_singleton, List.foldlM_cons]
      cases depthBehind? n p <;> rfl
    | cons q parts =>
      rw [List.intercalate_cons_cons, List.append_assoc, List.singleton_append,
        depthBehind?_append_cons hc, List.foldlM_cons]
      exact congrArg _ (funext ih)

theorem foldlM_of_bracesMatch {parts : List Text} (h : ∀ p ∈ parts, BracesMatch p) (n : ℕ) :
    parts.foldlM depthBehind? n = some n := by
  induction parts with
  | nil => rfl
  | cons p parts ih =>
    rw [List.foldlM_cons, (h p List.mem_cons_self).depthBehind?]
    exact ih fun q hq ↦ h q (List.mem_cons_of_mem p hq)

theorem depthBehind?_flatten {parts : List Text} (h : ∀ p ∈ parts, '\\' ∉ p) (n : ℕ) :
    depthBehind? n parts.flatten = parts.foldlM depthBehind? n := by
  induction parts generalizing n with
  | nil => rfl
  | cons p parts ih =>
    rw [List.flatten_cons, depthBehind?_append (h p List.mem_cons_self), List.foldlM_cons]
    exact congrArg _ (funext (ih fun q hq ↦ h q (List.mem_cons_of_mem p hq)))

theorem run_of_no_sign {s : Text} (h : ∀ c ∈ s, c ∉ braceSigns) (b : Braces) :
    b.run s = some ⟨b.depth, b.taken && s.isEmpty⟩ := by
  induction s generalizing b with
  | nil => simp [Braces.run]
  | cons c s ih =>
    rw [Braces.run_cons, Braces.step_of_not_sign (h c List.mem_cons_self), Option.bind_some,
      ih fun d hd ↦ h d (List.mem_cons_of_mem c hd)]
    simp

theorem depthBehind?_trim (n : ℕ) (s : Text) : depthBehind? n (Text.trim s) = depthBehind? n s := by
  obtain ⟨a, b, hs, ha, hb⟩ := Text.exists_trim s
  have hsigns : braceSigns.all (!Text.isBlank ·) = true := by decide
  have hblank {t : Text} (ht : ∀ c ∈ t, Text.isBlank c = true) : ∀ c ∈ t, c ∉ braceSigns := by
    intro c hc hsign
    have hsign := List.all_eq_true.1 hsigns c hsign
    rw [ht c hc] at hsign
    cases hsign
  conv_rhs => rw [hs]
  rw [depthBehind?, depthBehind?, Braces.run_append, Braces.run_append,
    run_of_no_sign (hblank ha), Bool.false_and, Option.bind_some]
  cases Braces.run ⟨n, false⟩ (Text.trim s) with
  | none => rfl
  | some m =>
    rw [Option.bind_some, run_of_no_sign (hblank hb)]
    rfl

/-- No brace of a text stands behind a backslash. -/
def EscapesNoBrace (s : Text) : Prop := ¬['\\', '{'] <:+: s ∧ ¬['\\', '}'] <:+: s

theorem EscapesNoBrace.tail {c : Char} {s : Text} (h : EscapesNoBrace (c :: s)) :
    EscapesNoBrace s :=
  ⟨fun hs ↦ h.1 (List.infix_cons hs), fun hs ↦ h.2 (List.infix_cons hs)⟩

theorem EscapesNoBrace.head? {s : Text} (h : EscapesNoBrace ('\\' :: s)) :
    s.head? ≠ some '{' ∧ s.head? ≠ some '}' := by
  cases s with
  | nil => simp
  | cons c s =>
    simp only [List.head?_cons, ne_eq, Option.some_inj]
    constructor
    · rintro rfl
      exact h.1 (List.prefix_append ['\\', '{'] s).isInfix
    · rintro rfl
      exact h.2 (List.prefix_append ['\\', '}'] s).isInfix

section

variable {p : Char → Bool} (hslash : p '\\' = false) (hopen : p '{' = true) (hclose : p '}' = true)

include hslash hopen hclose

theorem depthBehind?_filter_eq (taken : Bool) (n : ℕ) {s : Text} (hs : EscapesNoBrace s)
    (hhead : taken = true → s.head? ≠ some '{' ∧ s.head? ≠ some '}') :
    depthBehind? n (s.filter p) = (Braces.run ⟨n, taken⟩ s).map Braces.depth := by
  induction s generalizing taken n with
  | nil => rfl
  | cons c s ih =>
    have hfree (n : ℕ) := ih false n hs.tail Bool.false_ne_true.elim
    rw [Braces.run_cons, List.filter_cons]
    by_cases hc : c = '\\'
    · subst hc
      rw [hslash]
      cases taken with
      | true => exact hfree n
      | false => exact ih true n hs.tail fun _ ↦ hs.head?
    by_cases hbrace : c = '{' ∨ c = '}'
    · have htaken : taken = false := by
        rw [List.head?_cons] at hhead
        grind
      have hp : p c = true := by rcases hbrace with rfl | rfl <;> assumption
      rw [hp, htaken, if_pos rfl, depthBehind?, Braces.run_cons]
      rcases Braces.step_of_ne hc n with h | ⟨m, h⟩
      · rw [h]
        rfl
      · rw [h]
        exact hfree m
    · have hsign : c ∉ braceSigns := by
        rw [not_or] at hbrace
        simp [braceSigns, hc, hbrace]
      rw [Braces.step_of_not_sign hsign, Option.bind_some, ← hfree n]
      split
      · rw [depthBehind?, Braces.run_cons, Braces.step_of_not_sign hsign]
        rfl
      · rfl

theorem bracesMatch_filter_iff {s : Text} (hs : EscapesNoBrace s) :
    BracesMatch (s.filter p) ↔ BracesMatch s := by
  rw [BracesMatch, depthBehind?_filter_eq hslash hopen hclose false 0 hs Bool.false_ne_true.elim]
  rfl

end

end BookIndex.Tex
