import BookIndex.Proofs.Markup.Joined
import BookIndex.Proofs.Tex.Source

namespace BookIndex.Tex

open Markup

/-- The text behind a place without the texts of comments; the percent signs of these stay. -/
def liveFrom : Place → Text → Text
  | _, [] => []
  | p, c :: s =>
    if p.comment && c != '\n' then liveFrom (p.next c) s else c :: liveFrom (p.next c) s

def live (s : Text) : Text := liveFrom .start s

def isPercent (c : Char) : Bool := c == '%'

def backslash : Text := ['\\']

/-- The live text up to the first comment, and from the end of each comment to the next one. -/
def stretches (s : Text) : List Text := pieces isPercent backslash (live s)

/-- A text with a comment before each further text. -/
def withComments (first : Text) (parts : List (Text × Text)) : Text :=
  first ++ parts.flatMap fun p ↦ '%' :: (p.1 ++ p.2)

/-- No percent sign between the comments begins another one, none of those that begin a comment is
escaped, and each comment goes on to the end of its line. -/
def Separated : Text → List (Text × Text) → Prop
  | s, [] => Guarded isPercent backslash s
  | s, (comment, t) :: parts => Guarded isPercent backslash s ∧ s.getLast? ≠ some '\\' ∧
      '\n' ∉ comment ∧ (t.head? = some '\n' ∨ t = [] ∧ parts = []) ∧ Separated t parts

theorem withComments_cons (first comment s : Text) (parts : List (Text × Text)) :
    withComments first ((comment, s) :: parts) =
      first ++ '%' :: (comment ++ withComments s parts) := by
  simp [withComments]

theorem foldl_next_line (p : Place) (s : Text) :
    (s.foldl Place.next p).line = p.line + s.count '\n' := by
  induction s generalizing p with
  | nil => rfl
  | cons c s ih =>
    have hline : (p.next c).line = p.line + if c = '\n' then 1 else 0 := by
      unfold Place.next
      split <;> rfl
    rw [List.foldl_cons, ih, hline, List.count_cons]
    simp only [beq_iff_eq]
    omega

theorem foldl_next_prev (p : Place) (s : Text) :
    (s.foldl Place.next p).prev = s.getLast?.or p.prev := by
  induction s generalizing p with
  | nil => rfl
  | cons c s ih =>
    have hprev : (p.next c).prev = some c := by
      unfold Place.next
      split <;> rfl
    rw [List.foldl_cons, ih, hprev, or_getLast?_cons]

theorem escapes_backslash_iff (prev : Option Char) :
    escapes backslash prev = true ↔ prev = some '\\' := by
  cases prev with
  | none => simp
  | some d =>
    rw [backslash, escapes_singleton, Option.some.injEq]
    exact eq_comm

theorem next_live {p : Place} (hp : p.comment = false) {c : Char}
    (hc : isPercent c = true → escapes backslash p.prev = true) : (p.next c).comment = false := by
  unfold Place.next
  split
  · rfl
  · simpa [Place.commented, hp, isPercent, escapes_backslash_iff] using hc

theorem foldl_next_live {p : Place} (hp : p.comment = false) {s : Text}
    (h : GuardedFrom isPercent backslash p.prev s) : (s.foldl Place.next p).comment = false := by
  induction s generalizing p with
  | nil => exact hp
  | cons c s ih =>
    have hprev : (p.next c).prev = some c := foldl_next_prev p [c]
    exact ih (next_live hp h.1) (hprev ▸ h.2)

theorem foldl_next_comment {p : Place} (hp : p.comment = true) {s : Text} (h : '\n' ∉ s) :
    (s.foldl Place.next p).comment = true := by
  induction s generalizing p with
  | nil => exact hp
  | cons c s ih =>
    rw [List.mem_cons, not_or] at h
    refine ih ?_ h.2
    rw [Place.next, if_neg (Ne.symm h.1), Place.commented, hp, Bool.true_or]

theorem next_percent {p : Place} (hp : p.prev ≠ some '\\') : (p.next '%').comment = true := by
  simp [Place.next, Place.commented, hp]

theorem liveFrom_stretch {p : Place} (hp : p.comment = false) {s : Text}
    (h : GuardedFrom isPercent backslash p.prev s) (t : Text) :
    liveFrom p (s ++ t) = s ++ liveFrom (s.foldl Place.next p) t := by
  induction s generalizing p with
  | nil => rfl
  | cons c s ih =>
    have hprev : (p.next c).prev = some c := foldl_next_prev p [c]
    rw [List.cons_append, liveFrom, hp, ih (next_live hp h.1) (hprev ▸ h.2)]
    rfl

theorem liveFrom_comment {p : Place} (hp : p.comment = true) {s : Text} (h : '\n' ∉ s) (t : Text) :
    liveFrom p (s ++ t) = liveFrom (s.foldl Place.next p) t := by
  induction s generalizing p with
  | nil => rfl
  | cons c s ih =>
    rw [List.mem_cons, not_or] at h
    have hnext : (p.next c).comment = true :=
      foldl_next_comment hp (s := [c]) (by simpa using h.1)
    rw [List.cons_append, liveFrom, hp, if_pos (by simpa using Ne.symm h.1), ih hnext h.2]
    rfl

def atLine (line : ℕ) : Place := ⟨none, false, line⟩

theorem next_lineBreak {p p' : Place} (h : p.line = p'.line) : p.next '\n' = p'.next '\n' := by
  simp [Place.next, h]

theorem liveFrom_congr {p p' : Place} (h : p.line = p'.line) {s : Text}
    (hs : s.head? = some '\n' ∨ s = []) : liveFrom p s = liveFrom p' s := by
  cases s with
  | nil => rfl
  | cons c s =>
    obtain rfl : c = '\n' := by simpa using hs
    simp [liveFrom, next_lineBreak h]

theorem Separated.guarded {s : Text} {parts : List (Text × Text)} (h : Separated s parts) :
    Guarded isPercent backslash s := by
  cases parts with
  | nil => exact h
  | cons p parts => exact h.1

theorem Separated.lines {s : Text} {parts : List (Text × Text)} (h : Separated s parts) :
    ∀ q ∈ parts, '\n' ∉ q.1 := by
  induction parts generalizing s with
  | nil => exact nofun
  | cons q parts ih =>
    obtain ⟨-, -, hline, -, hrest⟩ := h
    exact List.forall_mem_cons.2 ⟨hline, ih hrest⟩

theorem head?_withComments_iff {s : Text} {parts : List (Text × Text)} :
    (withComments s parts).head? = some '\n' ∨ withComments s parts = [] ↔
      s.head? = some '\n' ∨ s = [] ∧ parts = [] := by
  cases s with
  | nil => cases parts <;> simp [withComments]
  | cons c s => simp [withComments]

theorem prev_ne_backslash (line : ℕ) {s : Text} (h : s.getLast? ≠ some '\\') :
    (s.foldl Place.next (atLine line)).prev ≠ some '\\' := by
  rw [foldl_next_prev]
  cases hs : s.getLast? with
  | none => simp [atLine]
  | some c => simpa [hs] using h

theorem liveFrom_withComments (line : ℕ) {s : Text} {parts : List (Text × Text)}
    (h : Separated s parts) : liveFrom (atLine line) (withComments s parts) =
      withComments s (parts.map fun q ↦ ([], q.2)) := by
  induction parts generalizing line s with
  | nil =>
    have hs := liveFrom_stretch (p := atLine line) rfl h []
    rw [List.append_nil] at hs
    simpa [withComments, liveFrom] using hs
  | cons q parts ih =>
    obtain ⟨comment, t⟩ := q
    obtain ⟨hs, hlast, hcomment, hnext, hrest⟩ := h
    let behind := s.foldl Place.next (atLine line)
    have hlive : behind.comment = false := foldl_next_live rfl hs
    have hin : (behind.next '%').comment = true := next_percent (prev_ne_backslash line hlast)
    let after := comment.foldl Place.next (behind.next '%')
    have hsame : after.line = (atLine after.line).line := rfl
    calc
      liveFrom (atLine line) (withComments s ((comment, t) :: parts)) =
          s ++ '%' :: liveFrom (behind.next '%') (comment ++ withComments t parts) := by
        rw [withComments_cons, liveFrom_stretch (p := atLine line) rfl hs, liveFrom, hlive]
        rfl
      _ = s ++ '%' :: liveFrom (atLine after.line) (withComments t parts) := by
        rw [liveFrom_comment hin hcomment,
          liveFrom_congr (p := after) hsame (head?_withComments_iff.2 hnext)]
      _ = withComments s (([], t) :: parts.map fun q ↦ ([], q.2)) := by
        rw [ih after.line hrest, withComments_cons]
        rfl

theorem stretches_withComments {s : Text} {parts : List (Text × Text)} (h : Separated s parts) :
    stretches (withComments s parts) = s :: parts.map Prod.snd := by
  have hlive : live (withComments s parts) = withComments s (parts.map fun q ↦ ([], q.2)) :=
    liveFrom_withComments 1 h
  rw [stretches, hlive]
  clear hlive
  induction parts generalizing s with
  | nil => simpa [withComments] using pieces_of_guarded h
  | cons q parts ih =>
    obtain ⟨comment, t⟩ := q
    obtain ⟨hs, hlast, -, -, hrest⟩ := h
    have hescape : escapes backslash s.getLast? = false := by
      rw [Bool.eq_false_iff, Ne, escapes_backslash_iff]
      exact hlast
    rw [List.map_cons, withComments_cons, List.nil_append,
      pieces_append_cons (by decide) (by decide) hs, hescape, ih hrest]
    rfl

theorem Separated.of_map_snd {s : Text} {parts parts' : List (Text × Text)} (h : Separated s parts)
    (hsnd : parts'.map Prod.snd = parts.map Prod.snd) (hline : ∀ q ∈ parts', '\n' ∉ q.1) :
    Separated s parts' := by
  induction parts generalizing s parts' with
  | nil =>
    rw [List.map_eq_nil_iff.1 hsnd]
    exact h
  | cons q parts ih =>
    obtain ⟨comment₀, t⟩ := q
    cases parts' with
    | nil => cases hsnd
    | cons q' parts' =>
      obtain ⟨comment, t'⟩ := q'
      obtain ⟨rfl, hrest⟩ : t' = t ∧ parts'.map Prod.snd = parts.map Prod.snd := by simpa using hsnd
      obtain ⟨hs, hlast, -, hnext, hparts⟩ := h
      refine ⟨hs, hlast, hline _ List.mem_cons_self, ?_, ?_⟩
      · refine hnext.imp_right fun hnil ↦ ⟨hnil.1, ?_⟩
        rw [hnil.2] at hrest
        exact List.map_eq_nil_iff.1 hrest
      · exact ih hparts hrest fun q hq ↦ hline q (List.mem_cons_of_mem _ hq)

theorem exists_lineEnd (s : Text) :
    ∃ a b, s = a ++ b ∧ '\n' ∉ a ∧ (b.head? = some '\n' ∨ b = []) := by
  by_cases h : '\n' ∈ s
  · obtain ⟨a, b, hs, ha⟩ := List.eq_append_cons_of_mem h
    exact ⟨a, '\n' :: b, hs, ha, .inl rfl⟩
  · exact ⟨s, [], by simp, h, .inr rfl⟩

theorem exists_separated (s : Text) :
    ∃ first parts, s = withComments first parts ∧ Separated first parts := by
  induction hn : s.length using Nat.strong_induction_on generalizing s with
  | _ n ih =>
    cases hcut : cut? isPercent backslash s with
    | none => exact ⟨s, [], by simp [withComments], guardedFrom_of_cutFrom_eq_none hcut⟩
    | some r =>
      obtain ⟨a, b⟩ := r
      obtain ⟨ha, c, hc, rfl⟩ := exists_of_cutFrom_eq_some hcut
      obtain rfl : c = '%' := by simpa [isPercent] using hc
      have hlast : a.getLast? ≠ some '\\' := by
        intro hl
        have happend := cutFrom_append ha ('%' :: b)
        obtain ⟨x, -, hx⟩ : ∃ x, cutFrom isPercent backslash (some '%') b = some x ∧
            a = a ++ '%' :: x.1 := by
          rw [← cut?, hcut, hl, cutFrom] at happend
          simpa [isPercent, backslash, escapes, Text.isChar, and_comm] using happend.symm
        have hlength := congrArg List.length hx
        simp at hlength
      obtain ⟨comment, rest, rfl, hcomment, hline⟩ := exists_lineEnd b
      have hshorter : rest.length < n := by
        rw [← hn]
        simp only [List.length_append, List.length_cons]
        omega
      obtain ⟨first, parts, rfl, hseparated⟩ := ih rest.length hshorter rest rfl
      exact ⟨a, (comment, first) :: parts, by rw [withComments_cons], ha, hlast, hcomment,
        head?_withComments_iff.1 hline, hseparated⟩

end BookIndex.Tex
