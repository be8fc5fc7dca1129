import BookIndex.Latex.Render
import BookIndex.Proofs.Text.Cuts
import Mathlib.Tactic.IntervalCases

namespace BookIndex.Latex

theorem hexDigit_not_mem_unsafeChars {n : Nat} (h : n < 16) : hexDigit n ∉ unsafeChars := by
  interval_cases n <;> decide

theorem eq_of_mem_escapeByte {b : UInt8} {c : Char} (h : c ∈ escapeByte b) :
    c = '=' ∨ c ∉ unsafeChars := by
  have hb := b.toNat_lt
  rcases List.mem_cons.1 h with rfl | h
  · exact .inl rfl
  · rcases List.mem_cons.1 h with rfl | h
    · exact .inr (hexDigit_not_mem_unsafeChars (by omega))
    · rw [List.mem_singleton.1 h]
      exact .inr (hexDigit_not_mem_unsafeChars (by omega))

theorem eq_of_mem_escapeLabel {s : Text} {c : Char} (h : c ∈ escapeLabel s) :
    c = '=' ∨ c ∉ unsafeChars := by
  obtain ⟨d, -, hc⟩ := List.mem_flatMap.1 h
  split at hc
  · obtain ⟨b, -, hb⟩ := List.mem_flatMap.1 hc
    exact eq_of_mem_escapeByte hb
  · rename_i hsafe
    rw [List.mem_singleton.1 hc]
    rw [Bool.or_eq_true, not_or] at hsafe
    exact .inr fun hd ↦ hsafe.2 (List.contains_iff_mem.2 hd)

theorem not_mem_escapeLabel {c : Char} (hc : c ∈ unsafeChars) (hne : c ≠ '=') (s : Text) :
    c ∉ escapeLabel s := by
  intro h
  rcases eq_of_mem_escapeLabel h with h | h
  · exact hne h
  · exact h hc

theorem bracket_not_mem_escapeLabel (s : Text) : ']' ∉ escapeLabel s :=
  not_mem_escapeLabel (by decide) (by decide) s

/-- An index as a macro names it. -/
inductive Target where
  | main
  | labelled (label : Text)
  deriving DecidableEq, Repr

namespace Target

/-- The index that the macro of an entry writes to. -/
def written? (line : Text) : Option Target :=
  if "\\index\x7b".toList.isPrefixOf line then some main
  else if "\\sindex[".toList.isPrefixOf line then
    (Text.cut? "]\x7b".toList (line.drop 8)).map fun r ↦ labelled r.1
  else none

/-- The commands that print an index. -/
def printCommands : Target → List Text
  | main => ["\\printindex".toList, "\\printindex[idx]".toList]
  | labelled label => ["\\printindex[".toList ++ label ++ [']']]

def ofIndex (useIndices : Bool) (index : Option Text) : Target :=
  match namedIndex? useIndices index with
  | some index => labelled (escapeLabel index)
  | none => main

theorem written?_indexMacro (useIndices : Bool) (index : Option Text) (body : Text) :
    written? (indexMacro useIndices index ++ body) = some (ofIndex useIndices index) := by
  unfold indexMacro ofIndex
  cases namedIndex? useIndices index with
  | none => rfl
  | some index =>
    have hcut : Text.cut? [']', '\x7b'] (escapeLabel index ++ ([']', '\x7b'] ++ body)) =
        some (escapeLabel index, body) :=
      Text.cut?_append_self (bracket_not_mem_escapeLabel index) body
    have hmacro : written? ("\\sindex[".toList ++ escapeLabel index ++ "]\x7b".toList ++ body) =
        (Text.cut? "]\x7b".toList (escapeLabel index ++ ("]\x7b".toList ++ body))).map
          fun r ↦ labelled r.1 := by
      rw [List.append_assoc, List.append_assoc]
      rfl
    exact hmacro.trans (congrArg _ hcut)

theorem written?_render {o : Options} {markup plain line : Text} {index : Option Text}
    {log : List Diagnostic} (h : render o markup plain index = .ok (line, log)) :
    written? line = some (ofIndex o.useIndices index) := by
  unfold render at h
  split at h
  · cases h
    rw [List.append_assoc]
    exact written?_indexMacro _ _ _
  · cases hkeys : sortKeys o (Markup.splitMarkup o.escape markup).1
        (Markup.splitMarkup o.escape plain).1 with
    | error e =>
      simp only [hkeys] at h
      cases h
    | ok keys =>
      simp only [hkeys] at h
      cases h
      rw [renderLevels, List.append_assoc]
      exact written?_indexMacro _ _ _

theorem printIndex_mem_printCommands (index : Text) :
    printIndex true false false (some index) ∈ (ofIndex true (some index)).printCommands := by
  cases index with
  | nil => exact List.mem_cons_self
  | cons c index =>
    by_cases hmain : c :: index = mainIndex
    · rw [hmain]
      decide
    · have hnamed : namedIndex? true (some (c :: index)) = some (c :: index) := by
        simp [namedIndex?, hmain]
      rw [ofIndex, hnamed]
      exact List.mem_singleton_self _

theorem ofIndex_false (index : Option Text) : ofIndex false index = main := by
  cases index <;> rfl

end Target

theorem printIndex_ne_nil (index : Option Text) : printIndex true false false index ≠ [] := by
  rcases index with _ | _ | ⟨c, index⟩ <;> exact List.cons_ne_nil _ _

theorem printIndex_false (index : Text) :
    printIndex false false false (some index) =
      if index = mainIndex then "\\printindex".toList else [] := by
  by_cases h : index = mainIndex <;> simp [printIndex, h]

end BookIndex.Latex
