import BookIndex.Proofs.Text.Infix
import BookIndex.Proofs.Text.Lemmas

namespace BookIndex.Text

section

variable {b : Text} (hb : ∀ c ∈ b, isBlank c = true)

include hb

theorem trim_append_blanks (s : Text) : trim (s ++ b) = trim s := by
  have hnil : b.dropWhile isBlank = [] := List.dropWhile_eq_nil_iff.2 hb
  have hrev : ∀ c ∈ b.reverse, isBlank c = true := fun c hc ↦ hb c (List.mem_reverse.1 hc)
  unfold trim trimBy
  rw [List.dropWhile_append]
  split
  · rename_i h
    rw [hnil, List.isEmpty_iff.1 h]
  · rw [List.reverse_append, List.dropWhile_append_of_pos hrev]

theorem trim_blanks_append (s : Text) : trim (b ++ s) = trim s := by
  unfold trim trimBy
  rw [List.dropWhile_append_of_pos hb]

theorem allBlank_append_blanks (s : Text) : allBlank (s ++ b) = allBlank s := by
  have hall : b.all isBlank = true := List.all_eq_true.2 hb
  rw [allBlank, List.all_append, hall, Bool.and_true]
  rfl

end

theorem trim_trim (s : Text) : trim (trim s) = trim s := by
  obtain ⟨a, b, hs, ha, hb⟩ := exists_trim s
  calc
    trim (trim s) = trim (a ++ trim s ++ b) := by
      rw [trim_append_blanks hb, trim_blanks_append ha]
    _ = trim s := by rw [← hs]

section

variable {pat b : Text} (hb : ∀ c ∈ b, c ∉ pat)

include hb

theorem isPrefixOf_append (s : Text) : pat.isPrefixOf (s ++ b) = pat.isPrefixOf s := by
  cases b with
  | nil => rw [List.append_nil]
  | cons d b => exact isPrefixOf_append_cons (hb d List.mem_cons_self) s b

theorem isPrefixOf?_append (s : Text) :
    pat.isPrefixOf? (s ++ b) = (pat.isPrefixOf? s).map (· ++ b) := by
  cases h : pat.isPrefixOf? s with
  | some rest =>
    rw [List.isPrefixOf?_eq_some_iff_append_eq] at h
    rw [Option.map_some, List.isPrefixOf?_eq_some_iff_append_eq, ← h, List.append_assoc]
  | none =>
    have hs : pat.isPrefixOf s = false := by
      rw [← Bool.not_eq_true, List.isPrefixOf_iff_prefix]
      rintro ⟨rest, hrest⟩
      rw [List.isPrefixOf?_eq_some_iff_append_eq.2 hrest] at h
      cases h
    rw [Option.map_none, Option.eq_none_iff_forall_ne_some]
    intro rest hrest
    rw [← isPrefixOf_append hb, ← Bool.not_eq_true, List.isPrefixOf_iff_prefix] at hs
    exact hs ⟨rest, List.isPrefixOf?_eq_some_iff_append_eq.1 hrest⟩

variable (hpat : pat ≠ [])

include hpat

theorem isPrefixOf_of_disjoint : pat.isPrefixOf b = false := by
  rw [← List.nil_append b, isPrefixOf_append hb]
  cases pat with
  | nil => exact absurd rfl hpat
  | cons c pat => rfl

theorem occurs_of_disjoint : occurs pat b = false := by
  induction b with
  | nil => simpa [occurs] using hpat
  | cons d b ih =>
    rw [occurs, isPrefixOf_of_disjoint hb hpat, Bool.false_or]
    exact ih fun c hc ↦ hb c (List.mem_cons_of_mem _ hc)

theorem occurs_append (s : Text) : occurs pat (s ++ b) = occurs pat s := by
  induction s with
  | nil =>
    rw [List.nil_append, occurs_of_disjoint hb hpat]
    exact (occurs_of_disjoint (b := []) nofun hpat).symm
  | cons c s ih =>
    rw [List.cons_append, occurs, ih, ← List.cons_append, isPrefixOf_append hb]
    rfl

theorem infix_append_disjoint (s : Text) : pat <:+: s ++ b ↔ pat <:+: s := by
  rw [← occurs_iff_infix, occurs_append hb hpat, occurs_iff_infix]

theorem infix_disjoint_append (s : Text) : pat <:+: b ++ s ↔ pat <:+: s := by
  induction b with
  | nil => rfl
  | cons d b ih =>
    have hd := infix_append_cons (hb d List.mem_cons_self) [] (b ++ s)
    rw [List.infix_nil, or_iff_right hpat, List.nil_append] at hd
    rw [List.cons_append, hd]
    exact ih fun c hc ↦ hb c (List.mem_cons_of_mem _ hc)

theorem infix_append_disjoint_append (hne : b ≠ []) (s t : Text) :
    pat <:+: s ++ (b ++ t) ↔ pat <:+: s ∨ pat <:+: t := by
  obtain ⟨d, b, rfl⟩ := List.exists_cons_of_ne_nil hne
  have hrest : ∀ c ∈ b, c ∉ pat := fun c hc ↦ hb c (List.mem_cons_of_mem _ hc)
  rw [List.cons_append, infix_append_cons (hb d List.mem_cons_self),
    infix_disjoint_append hrest hpat]

theorem replace_of_disjoint (new : Text) : replace pat new b = b := by
  induction b with
  | nil => rfl
  | cons d b ih =>
    have hd : ¬pat <+: d :: b := by
      rw [← List.isPrefixOf_iff_prefix, isPrefixOf_of_disjoint hb hpat]
      exact Bool.false_ne_true
    rw [replace_cons hd, ih fun c hc ↦ hb c (List.mem_cons_of_mem _ hc)]

theorem replaceFrom_append_disjoint (new : Text) {skip : ℕ} {s : Text} (hskip : skip ≤ s.length) :
    replaceFrom pat new skip (s ++ b) = replaceFrom pat new skip s ++ b := by
  induction s generalizing skip with
  | nil =>
    obtain rfl : skip = 0 := Nat.le_zero.1 hskip
    exact replace_of_disjoint hb hpat new
  | cons c s ih =>
    cases skip with
    | succ skip => exact ih (Nat.le_of_succ_le_succ hskip)
    | zero =>
      have hp := isPrefixOf_append hb (c :: s)
      rw [List.cons_append] at hp ⊢
      rw [replaceFrom, replaceFrom, hp]
      split
      · rename_i h
        have hlen := (List.isPrefixOf_iff_prefix.1 h).length_le
        rw [List.length_cons] at hlen
        rw [ih (by omega), List.append_assoc]
      · rw [ih (Nat.zero_le _), List.cons_append]

theorem replace_append_disjoint (new s : Text) :
    replace pat new (s ++ b) = replace pat new s ++ b :=
  replaceFrom_append_disjoint hb hpat new (Nat.zero_le _)

theorem cut?_of_disjoint : cut? pat b = none := by
  rw [Option.eq_none_iff_forall_ne_some]
  intro r hr
  obtain ⟨c, pat, rfl⟩ := List.exists_cons_of_ne_nil hpat
  refine hb c ?_ List.mem_cons_self
  rw [append_of_cut? hr]
  simp

theorem cut?_append_disjoint (s : Text) :
    cut? pat (s ++ b) = (cut? pat s).map fun r ↦ (r.1, r.2 ++ b) := by
  cases b with
  | nil => simp
  | cons d b =>
    rw [cut?_append_cons hpat (hb d List.mem_cons_self), cut?_of_disjoint hb hpat]
    cases cut? pat s <;> rfl

end

end BookIndex.Text
