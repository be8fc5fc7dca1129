import BookIndex.Tex.Scan
import Mathlib.Data.List.Basic

namespace BookIndex.Tex

/-- Whether the braces of a text behind some open ones are balanced, with at most `limit` of them
open at a time. -/
def balanced (limit : ℕ) : (depth : ℕ) → Text → Bool
  | depth, [] => depth == 0
  | depth, c :: s =>
    if c = '{' then depth < limit && balanced limit (depth + 1) s
    else if c = '}' then 0 < depth && balanced limit (depth - 1) s
    else balanced limit depth s

namespace Macro

/-- A macro that can be written: it has one of the ten names, an option up to the first closing
bracket, and a body with braces inside of at most one pair of braces. -/
structure WellFormed (m : Macro) : Prop where
  name : m.name ∈ macroNames
  option : m.option = [] ∨ ∃ s, m.option = '[' :: s ++ [']'] ∧ ']' ∉ s
  body : balanced 1 0 m.body = true

def write (m : Macro) : Text := '\\' :: m.tail

end Macro

theorem bodyFrom?_append (inner : Bool) {s : Text} (h : balanced 1 inner.toNat s = true)
    (rest : Text) : bodyFrom? inner (s ++ '}' :: rest) = some s := by
  induction s generalizing inner with
  | nil =>
    cases inner with
    | false => rfl
    | true => cases h
  | cons c s ih =>
    rw [balanced] at h
    rw [List.cons_append, bodyFrom?]
    by_cases hopen : c = '{'
    · subst hopen
      cases inner with
      | false => simpa using ih true (by simpa using h)
      | true => simp at h
    · rw [if_neg hopen] at h
      by_cases hclose : c = '}'
      · subst hclose
        cases inner with
        | false => simp at h
        | true => simpa using ih false (by simpa using h)
      · rw [if_neg hclose] at h
        simp [hopen, hclose, ih inner h]

theorem optionLength_bracket {s : Text} (h : ']' ∉ s) (rest : Text) :
    optionLength ('[' :: (s ++ ']' :: rest)) = s.length + 2 := by
  have hstop : ∀ c ∈ s, (c != ']') = true := fun c hc ↦ by
    rw [bne_iff_ne]
    rintro rfl
    exact h hc
  have htake : (s ++ ']' :: rest).takeWhile (· != ']') = s := by
    rw [List.takeWhile_append_of_pos hstop]
    simp
  rw [optionLength, htake]
  simp

theorem optionLength_append {m : Macro} (h : m.WellFormed) (rest : Text) :
    optionLength (m.option ++ '{' :: rest) = m.option.length := by
  rcases h.option with hm | ⟨s, hm, hs⟩
  · rw [hm]
    rfl
  · have hlist : m.option ++ '{' :: rest = '[' :: (s ++ ']' :: '{' :: rest) := by simp [hm]
    rw [hlist, optionLength_bracket hs, hm]
    simp

theorem tail_append (m : Macro) (rest : Text) :
    m.tail ++ rest = m.name ++ (m.option ++ '{' :: (m.body ++ '}' :: rest)) := by
  simp [Macro.tail]

theorem named?_tail {m : Macro} (h : m.WellFormed) (rest : Text) :
    Macro.named? m.name (m.tail ++ rest) = some m := by
  have hname : m.name.isPrefixOf? (m.tail ++ rest) =
      some (m.option ++ '{' :: (m.body ++ '}' :: rest)) := by
    rw [List.isPrefixOf?_eq_some_iff_append_eq, tail_append]
  have hbody : bodyFrom? false (m.body ++ '}' :: rest) = some m.body :=
    bodyFrom?_append false h.body rest
  simp [Macro.named?, hname, optionLength_append h, hbody]

theorem head?_option_append {m : Macro} (h : m.WellFormed) (rest : Text) :
    ∃ c, (m.option ++ '{' :: rest).head? = some c ∧ ∀ n ∈ macroNames, c ∉ n := by
  rcases h.option with hm | ⟨s, hm, -⟩
  · exact ⟨'{', by simp [hm], by decide⟩
  · exact ⟨'[', by simp [hm], by decide⟩

theorem named?_tail_of_ne {m : Macro} (h : m.WellFormed) {name : Text} (hn : name ∈ macroNames)
    (hne : name ≠ m.name) (rest : Text) : Macro.named? name (m.tail ++ rest) = none := by
  cases hp : name.isPrefixOf? (m.tail ++ rest) with
  | none => simp [Macro.named?, hp]
  | some s =>
    have hsplit := List.isPrefixOf?_eq_some_iff_append_eq.1 hp
    rw [tail_append] at hsplit
    rcases List.append_eq_append_iff.1 hsplit with ⟨t, ht, hs⟩ | ⟨t, ht, hs⟩
    · cases t with
      | nil => exact absurd (by simpa using ht.symm) hne
      | cons c t =>
        have hletters : ∀ n ∈ macroNames, '[' ∉ n ∧ '{' ∉ n := by decide
        have hc : c ∈ m.name := by simp [ht]
        have hbracket : c ≠ '[' := by
          rintro rfl
          exact (hletters m.name h.name).1 hc
        have hbrace : c ≠ '{' := by
          rintro rfl
          exact (hletters m.name h.name).2 hc
        have hoption : optionLength s = 0 := by
          rw [hs, List.cons_append, optionLength]
          simpa using hbracket
        have hhead : s[0]? ≠ some '{' := by simpa [hs] using hbrace
        simp [Macro.named?, hp, hoption, hhead]
    · cases t with
      | nil => exact absurd (by simpa using ht) hne
      | cons d t =>
        obtain ⟨c, hc, hnames⟩ := head?_option_append h (m.body ++ '}' :: rest)
        rw [hs] at hc
        cases hc
        exact absurd (by simp [ht]) (hnames name hn)

theorem ofTail?_append {m : Macro} (h : m.WellFormed) (rest : Text) :
    Macro.ofTail? (m.tail ++ rest) = some m := by
  have hfound : ∀ {names : List Text}, m.name ∈ names → (∀ n ∈ names, n ∈ macroNames) →
      names.findSome? (Macro.named? · (m.tail ++ rest)) = some m := by
    intro names hm hn
    induction names with
    | nil => cases hm
    | cons n names ih =>
      rw [List.findSome?_cons]
      by_cases hne : n = m.name
      · rw [hne, named?_tail h]
      · rw [named?_tail_of_ne h (hn n List.mem_cons_self) hne]
        exact ih ((List.mem_cons.1 hm).resolve_left (Ne.symm hne))
          fun k hk ↦ hn k (List.mem_cons_of_mem n hk)
  exact hfound h.name fun n hn ↦ hn

end BookIndex.Tex
