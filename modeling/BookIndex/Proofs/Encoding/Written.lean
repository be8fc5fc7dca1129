import BookIndex.Proofs.Encoding.Macros
import Mathlib.Data.List.Basic

namespace BookIndex.Charset

variable {s : Charset}

theorem canEncode_of_mem_macro (ascii : s.HoldsAscii) {c d : Char} {m : Text}
    (hm : s.macro? c = some m) (hd : d ∈ m) : s.canEncode d = true := by
  rcases macro?_cases hm with hm | ⟨base, a, -, hbase, rfl⟩
  · have special : ∀ p ∈ specialMacros, p.2.all (·.toNat < 128) = true := by decide
    have hascii := List.all_eq_true.1 (special (c, m) hm) d hd
    exact ascii d (of_decide_eq_true hascii)
  · have haccent : (accentMacro a).toNat < 128 := by cases a <;> decide
    simp only [List.mem_cons, List.not_mem_nil, or_false] at hd
    rcases hd with rfl | rfl | rfl | rfl | rfl
    · exact ascii _ (by decide)
    · exact ascii _ haccent
    · exact ascii _ (by decide)
    · exact hbase
    · exact ascii _ (by decide)

theorem writeChar_of_canEncode {c : Char} (h : s.canEncode c = true) (preview : Bool) :
    s.writeChar preview c = [c] := by
  rw [writeChar, if_pos h]

theorem isLost_of_canEncode {c : Char} (h : s.canEncode c = true) : s.isLost c = false := by
  rw [isLost, h, Bool.not_true, Bool.false_and]

theorem filter_writeChar (ascii : s.HoldsAscii) (preview : Bool) (c : Char) :
    (s.writeChar preview c).filter s.canEncode = s.writeChar false c := by
  cases hc : s.canEncode c with
  | true => rw [writeChar_of_canEncode hc, writeChar_of_canEncode hc, List.filter_cons_of_pos hc,
      List.filter_nil]
  | false =>
    cases hm : s.macro? c with
    | some m =>
      have hwrite (p : Bool) : s.writeChar p c = m := by simp only [writeChar, hc, hm]; rfl
      rw [hwrite, hwrite, List.filter_eq_self]
      exact fun d hd ↦ canEncode_of_mem_macro ascii hm hd
    | none => cases preview <;> simp [writeChar, hc, hm]

theorem filter_write (ascii : s.HoldsAscii) (preview : Bool) (t : Text) :
    (s.write preview t).1.filter s.canEncode = (s.write false t).1 := by
  simp only [write, List.filter_flatMap, filter_writeChar ascii]

theorem canEncode_of_mem_write (ascii : s.HoldsAscii) {t : Text} {c : Char}
    (h : c ∈ (s.write false t).1) : s.canEncode c = true := by
  rw [← filter_write ascii false t] at h
  exact (List.mem_filter.1 h).2

theorem write_of_canEncode {t : Text} (h : ∀ c ∈ t, s.canEncode c = true) (preview : Bool) :
    s.write preview t = (t, []) := by
  have hwrite : t.flatMap (s.writeChar preview) = t.flatMap fun c ↦ [c] :=
    List.flatMap_congr fun c hc ↦ writeChar_of_canEncode (h c hc) preview
  have hlost : t.filter s.isLost = [] :=
    List.filter_eq_nil_iff.2 fun c hc ↦ Bool.eq_false_iff.1 (isLost_of_canEncode (h c hc))
  rw [write, hwrite, hlost, List.flatMap_singleton']

theorem write_eq_self_iff (ascii : s.HoldsAscii) (t : Text) :
    (s.write false t).1 = t ↔ ∀ c ∈ t, s.canEncode c = true := by
  constructor
  · intro h c hc
    rw [← h] at hc
    exact canEncode_of_mem_write ascii hc
  · intro h
    rw [write_of_canEncode h]

end BookIndex.Charset
