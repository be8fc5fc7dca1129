import BookIndex.Proofs.Text.Cuts
import Mathlib.Data.List.Infix

namespace BookIndex.Text

theorem infix_append_cons {pat : Text} {d : Char} (hd : d ∉ pat) (s t : Text) :
    pat <:+: s ++ d :: t ↔ pat <:+: s ∨ pat <:+: t := by
  have hstarts (s : Text) : pat <+: s ++ d :: t ↔ pat <+: s := by
    rw [← List.isPrefixOf_iff_prefix, isPrefixOf_append_cons hd, List.isPrefixOf_iff_prefix]
  induction s with
  | nil =>
    have hd' := hstarts []
    rw [List.nil_append] at hd' ⊢
    rw [List.infix_cons_iff, hd', List.prefix_nil, List.infix_nil]
  | cons c s ih =>
    calc
      pat <:+: c :: (s ++ d :: t) ↔ pat <+: c :: (s ++ d :: t) ∨ pat <:+: s ++ d :: t :=
        List.infix_cons_iff
      _ ↔ pat <+: c :: s ∨ pat <:+: s ∨ pat <:+: t := or_congr (hstarts (c :: s)) ih
      _ ↔ pat <:+: c :: s ∨ pat <:+: t := by rw [List.infix_cons_iff, or_assoc]

theorem replaceFrom_append (pat new s t : Text) :
    replaceFrom pat new s.length (s ++ t) = replace pat new t := by
  induction s with
  | nil => rfl
  | cons c s ih => exact ih

theorem replace_append {pat : Text} (hp : pat ≠ []) (new s : Text) :
    replace pat new (pat ++ s) = new ++ replace pat new s := by
  obtain ⟨c, pat, rfl⟩ := List.exists_cons_of_ne_nil hp
  have hstarts : (c :: pat).isPrefixOf (c :: (pat ++ s)) = true :=
    List.isPrefixOf_iff_prefix.2 (List.prefix_append (c :: pat) s)
  rw [replace, List.cons_append, replaceFrom, if_pos hstarts]
  exact congrArg (new ++ ·) (replaceFrom_append (c :: pat) new pat s)

theorem replace_cons {pat s : Text} {c : Char} (h : ¬pat <+: c :: s) (new : Text) :
    replace pat new (c :: s) = c :: replace pat new s := by
  rw [replace, replaceFrom, if_neg (mt List.isPrefixOf_iff_prefix.1 h)]
  rfl

theorem replace_append_of_notMem {c : Char} {pat a : Text} (h : c ∉ a) (new s : Text) :
    replace (c :: pat) new (a ++ s) = a ++ replace (c :: pat) new s := by
  induction a with
  | nil => rfl
  | cons d a ih =>
    rw [List.mem_cons, not_or] at h
    have hd : ¬(c :: pat) <+: d :: (a ++ s) := fun hp ↦ h.1 (List.cons_prefix_cons.1 hp).1
    rw [List.cons_append, replace_cons hd, ih h.2, List.cons_append]

theorem head?_of_head?_replace {pat s : Text} {c d : Char} (hp : pat ≠ []) (hcd : c ≠ d)
    (h : (replace pat [d] s).head? = some c) : s.head? = some c := by
  cases s with
  | nil => exact h
  | cons b s =>
    by_cases hb : pat <+: b :: s
    · obtain ⟨rest, hrest⟩ := hb
      rw [← hrest, replace_append hp] at h
      exact absurd (Option.some_inj.1 h).symm hcd
    · rw [replace_cons hb] at h
      exact h

theorem occurs_iff_infix (pat s : Text) : occurs pat s = true ↔ pat <:+: s := by
  induction s with
  | nil => rw [occurs, List.isEmpty_iff, List.infix_nil]
  | cons c s ih => rw [occurs, Bool.or_eq_true, List.isPrefixOf_iff_prefix, ih, List.infix_cons_iff]

end BookIndex.Text
