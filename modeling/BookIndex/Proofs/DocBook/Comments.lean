import BookIndex.Proofs.DocBook.Session
import BookIndex.Proofs.Text.Infix
import Mathlib.Data.List.Induction

namespace BookIndex

/-- What may stand between the ends of a comment: no two hyphens in a row, and none at the end. -/
def Xml.IsCommentText (s : Text) : Prop := ¬['-', '-'] <:+: s ∧ s.getLast? ≠ some '-'

instance (s : Text) : Decidable (Xml.IsCommentText s) :=
  inferInstanceAs (Decidable (¬['-', '-'] <:+: s ∧ s.getLast? ≠ some '-'))

namespace Diagnostic

def partHyphens (s : Text) : Text := Text.replace ['-', '-'] ['-', ' ', '-'] s

/-- The text between the ends of the comment of a diagnostic. -/
def commentText (d : Diagnostic) : Text :=
  " Output Error: ".toList ++ partHyphens d.message ++ [' ']

theorem comment_eq (d : Diagnostic) :
    d.comment = "<!--".toList ++ d.commentText ++ "-->\n".toList := by
  unfold comment commentText
  have hparted : Text.replace "--".toList "- -".toList d.message = partHyphens d.message := rfl
  rw [hparted]
  generalize partHyphens d.message = s
  simp

theorem partHyphens_hyphens (s : Text) :
    partHyphens ('-' :: '-' :: s) = '-' :: ' ' :: '-' :: partHyphens s :=
  Text.replace_append (by decide) ['-', ' ', '-'] s

theorem partHyphens_cons {c : Char} {s : Text} (h : ¬(c = '-' ∧ s.head? = some '-')) :
    partHyphens (c :: s) = c :: partHyphens s := by
  refine Text.replace_cons (fun ⟨t, ht⟩ ↦ ?_) ['-', ' ', '-']
  cases ht
  exact h ⟨rfl, rfl⟩

theorem head?_partHyphens (s : Text) : (partHyphens s).head? = s.head? := by
  cases s with
  | nil => rfl
  | cons c s =>
    by_cases h : c = '-' ∧ s.head? = some '-'
    · obtain ⟨rfl, hs⟩ := h
      obtain ⟨t, rfl⟩ := List.head?_eq_some_iff.1 hs
      rw [partHyphens_hyphens]
      rfl
    · rw [partHyphens_cons h]
      rfl

theorem hyphens_infix_cons (c : Char) (s : Text) :
    ['-', '-'] <:+: c :: s ↔ c = '-' ∧ s.head? = some '-' ∨ ['-', '-'] <:+: s := by
  rw [List.infix_cons_iff, List.cons_prefix_cons]
  cases s <;> simp [@eq_comm _ '-']

theorem hyphens_infix_partHyphens (s : Text) :
    ['-', '-'] <:+: partHyphens s ↔ ['-', '-', '-'] <:+: s := by
  induction s using List.twoStepInduction with
  | nil => decide
  | singleton c =>
    rw [partHyphens_cons (by simp), hyphens_infix_cons, head?_partHyphens]
    simp [partHyphens, List.infix_cons_iff]
  | cons_cons c d s ih ih' =>
    rw [List.infix_cons_iff, List.cons_prefix_cons]
    by_cases h : c = '-' ∧ d = '-'
    · obtain ⟨rfl, rfl⟩ := h
      rw [partHyphens_hyphens, hyphens_infix_cons, hyphens_infix_cons, hyphens_infix_cons,
        head?_partHyphens, ih, List.infix_cons_iff]
      cases s with
      | nil => simp
      | cons a s =>
        simp only [List.head?_cons, List.cons_prefix_cons, Option.some_inj, @eq_comm _ '-' a]
        grind
    · have hd : ¬(c = '-' ∧ (d :: s).head? = some '-') := by simpa using h
      have hp : ¬('-' = c ∧ ['-', '-'] <+: d :: s) := by
        rintro ⟨rfl, ⟨t, ht⟩⟩
        cases ht
        exact h ⟨rfl, rfl⟩
      rw [partHyphens_cons hd, hyphens_infix_cons, head?_partHyphens, ih', or_iff_right hd,
        or_iff_right hp]

theorem getLast?_commentText (d : Diagnostic) : d.commentText.getLast? = some ' ' :=
  List.getLast?_concat

theorem isCommentText_iff (d : Diagnostic) :
    Xml.IsCommentText d.commentText ↔ ¬['-', '-', '-'] <:+: d.message := by
  have hspace : ' ' ∉ ['-', '-'] := by decide
  have hstart : ¬['-', '-'] <:+: " Output Error:".toList := by decide
  have htext : d.commentText =
      " Output Error:".toList ++ ' ' :: (partHyphens d.message ++ [' ']) := by
    unfold commentText
    generalize partHyphens d.message = s
    simp
  have hinfix : ['-', '-'] <:+: d.commentText ↔ ['-', '-', '-'] <:+: d.message := by
    rw [htext, Text.infix_append_cons hspace, or_iff_right hstart, Text.infix_append_cons hspace,
      hyphens_infix_partHyphens]
    simp
  rw [Xml.IsCommentText, hinfix, getLast?_commentText]
  simp

end Diagnostic

namespace DocBook

open Markup

variable {o : Options}

theorem render_diagnostics (t : RangeTable) (raw : Text) (index : Option Text) :
    (render o t raw index).diagnostics =
      problems (Text.trim raw) (parse o.escape (Text.trim raw)) := by
  rw [render]
  split <;> rfl

theorem not_hyphens_infix {s : Text} (h : '-' ∉ s) : ¬['-', '-', '-'] <:+: s :=
  fun hi ↦ h (hi.subset List.mem_cons_self)

theorem infix_complete_iff (s raw : Text) :
    ['-', '-', '-'] <:+: s ++ (" Complete entry: \"".toList ++ raw ++ ['"']) ↔
      ['-', '-', '-'] <:+: s ∨ ['-', '-', '-'] <:+: raw := by
  have hspace : ' ' ∉ ['-', '-', '-'] := by decide
  have hquote : '"' ∉ ['-', '-', '-'] := by decide
  have hlabel : ¬['-', '-', '-'] <:+: "Complete entry: ".toList := not_hyphens_infix (by decide)
  have htext : s ++ (" Complete entry: \"".toList ++ raw ++ ['"']) =
      s ++ ' ' :: ("Complete entry: ".toList ++ '"' :: (raw ++ ['"'])) := by simp
  rw [htext, Text.infix_append_cons hspace, Text.infix_append_cons hquote, or_iff_right hlabel,
    Text.infix_append_cons hquote]
  simp

theorem infix_message_iff {raw : Text} {e : Entry} {d : Diagnostic} (h : d ∈ problems raw e) :
    ['-', '-', '-'] <:+: d.message ↔ ['-', '-', '-'] <:+: raw ∨
      d.kind = .unsupportedTrailingCommand ∧ ['-', '-', '-'] <:+: e.command.leftover := by
  simp only [problems, List.mem_append, List.mem_ite_nil_right, List.mem_ite_nil_left,
    List.mem_singleton] at h
  rcases h with ((⟨-, rfl⟩ | ⟨-, rfl⟩) | ⟨-, rfl⟩) | ⟨-, rfl⟩
  · have hs : ¬['-', '-', '-'] <:+:
        "Unsupported feature: an index entry contains an @\\.".toList :=
      not_hyphens_infix (by decide)
    rw [infix_complete_iff, or_iff_right hs]
    simp
  · have hs : ¬['-', '-', '-'] <:+:
        "Several index terms found as \"see\"! Only one is acceptable.".toList :=
      not_hyphens_infix (by decide)
    rw [infix_complete_iff, or_iff_right hs]
    simp
  · have hs : ¬['-', '-', '-'] <:+:
        "Unsupported feature: an index entry contains a | with an unsupported command,".toList :=
      not_hyphens_infix (by decide)
    have hrest :
        "Unsupported feature: an index entry contains a | with an unsupported command, ".toList ++
          e.command.leftover ++ ['.'] =
        "Unsupported feature: an index entry contains a | with an unsupported command,".toList ++
          ' ' :: (e.command.leftover ++ ['.']) := by simp
    rw [infix_complete_iff, hrest, Text.infix_append_cons (by decide), or_iff_right hs,
      Text.infix_append_cons (by decide), or_comm]
    simp
  · have hs : ¬['-', '-', '-'] <:+: "No index term found!".toList :=
      not_hyphens_infix (by decide)
    rw [infix_complete_iff, or_iff_right hs]
    simp

theorem trailing_mem_problems (raw : Text) {e : Entry} (h : e.command.leftover ≠ []) :
    ∃ d ∈ problems raw e, d.kind = .unsupportedTrailingCommand := by
  have hl : ¬e.command.leftover.isEmpty = true := by rwa [List.isEmpty_iff]
  simp only [problems, List.mem_append, List.mem_ite_nil_left, List.mem_singleton]
  exact ⟨_, .inl (.inr ⟨hl, rfl⟩), rfl⟩

/-- A comment never ends in a hyphen, and it has no two of them in a row exactly if its message has
no three. So the comments of an entry are well-formed exactly if there are none, or neither the entry
nor what is left over of its command has three hyphens in a row. -/
theorem comments_wellFormed_iff (o : Options) (t : RangeTable) (raw : Text) (index : Option Text) :
    (∀ d : Diagnostic, d.comment = "<!--".toList ++ d.commentText ++ "-->\n".toList ∧
      d.commentText.getLast? ≠ some '-' ∧
      (Xml.IsCommentText d.commentText ↔ ¬['-', '-', '-'] <:+: d.message)) ∧
    ((∀ d ∈ (render o t raw index).diagnostics, Xml.IsCommentText d.commentText) ↔
      (render o t raw index).diagnostics = [] ∨
        ¬['-', '-', '-'] <:+: Text.trim raw ∧
          ¬['-', '-', '-'] <:+: (parse o.escape (Text.trim raw)).command.leftover) := by
  refine ⟨fun d ↦ ⟨d.comment_eq, by simp [d.getLast?_commentText], d.isCommentText_iff⟩, ?_⟩
  rw [render_diagnostics]
  simp only [Diagnostic.isCommentText_iff]
  constructor
  · intro h
    refine or_iff_not_imp_left.2 fun hne ↦ ⟨fun hraw ↦ ?_, fun hleft ↦ ?_⟩
    · obtain ⟨d, hd⟩ := List.exists_mem_of_ne_nil _ hne
      exact h d hd ((infix_message_iff hd).2 (.inl hraw))
    · have hl : (parse o.escape (Text.trim raw)).command.leftover ≠ [] := by
        intro hnil
        rw [hnil] at hleft
        exact absurd hleft (by decide)
      obtain ⟨d, hd, hk⟩ := trailing_mem_problems (Text.trim raw) hl
      exact h d hd ((infix_message_iff hd).2 (.inr ⟨hk, hleft⟩))
  · rintro (hnil | ⟨hraw, hleft⟩) d hd
    · rw [hnil] at hd
      cases hd
    · rw [infix_message_iff hd]
      exact fun h ↦ h.elim hraw fun h ↦ hleft h.2

theorem comment_of_hyphens : (render standard .empty "A|---".toList none).output =
      ("<!-- Output Error: Unsupported feature: an index entry contains a | with an unsupported " ++
        "command, - --. Complete entry: \"A|- --\" -->\n" ++
        "<indexterm><primary>A</primary></indexterm>").toList ∧
    ∃ d ∈ (render standard .empty "A|---".toList none).diagnostics,
      ¬Xml.IsCommentText d.commentText := by
  decide +kernel

end DocBook
end BookIndex
