import BookIndex.Markup.Entry
import BookIndex.Proofs.Markup.Guarded

namespace BookIndex.Markup

/-- An escape character in ASCII that is not blank and has no meaning of its own in an entry. -/
structure PlainEscape (e : Char) : Prop where
  ascii : e.toNat < 128
  not_blank : Text.isBlank e = false
  ne_backslash : e ≠ '\\'
  ne_level : e ≠ '!'
  ne_sort : e ≠ '@'
  ne_command : e ≠ '|'

theorem plainEscape_default : PlainEscape '"' :=
  ⟨by decide, by decide, by decide, by decide, by decide, by decide⟩

theorem escapes_singleton_iff (e : Char) (prev : Option Char) :
    escapes [e] prev = true ↔ prev = some e := by
  cases prev with
  | none => simp
  | some c => rw [escapes_singleton, Option.some_inj, eq_comm]

theorem escapes_singleton_of_ne {e c : Char} (h : e ≠ c) : escapes [e] (some c) = false := by
  rw [Bool.eq_false_iff, ne_eq, escapes_singleton]
  exact h

theorem PlainEscape.escapes_level {e : Char} (he : PlainEscape e) (c : Char)
    (hc : isLevelSeparator c = true) : escapes [e] (some c) = false := by
  rw [eq_of_beq hc]
  exact escapes_singleton_of_ne he.ne_level

theorem PlainEscape.escapes_blank {e : Char} (he : PlainEscape e) (c : Char)
    (hc : Text.isBlank c = true) : escapes [e] (some c) = false := by
  refine escapes_singleton_of_ne ?_
  rintro rfl
  simp [he.not_blank] at hc

variable {sep : Char → Bool}

theorem guardedFrom_of_no_separator {esc : Text} (prev : Option Char) {s : Text}
    (h : ∀ c ∈ s, sep c = false) : GuardedFrom sep esc prev s := by
  induction s generalizing prev with
  | nil => trivial
  | cons c s ih =>
    refine ⟨?_, ih (some c) (fun d hd ↦ h d (List.mem_cons_of_mem _ hd))⟩
    simp [h c (by simp)]

theorem GuardedFrom.flatMap {e : Char} {f : Char → Text} (hs : ∀ c, sep c = true → f c = [c])
    (hn : ∀ c, sep c = false → ∀ d ∈ f c, sep d = false) (he : (f e).getLast? = some e)
    {prev prev' : Option Char} (hp : prev = some e → prev' = some e) {s : Text}
    (h : GuardedFrom sep [e] prev s) : GuardedFrom sep [e] prev' (s.flatMap f) := by
  induction s generalizing prev prev' with
  | nil => trivial
  | cons c s ih =>
    rw [List.flatMap_cons, guardedFrom_append]
    refine ⟨?_, ih (fun hc ↦ ?_) h.2⟩
    · cases hc : sep c
      · exact guardedFrom_of_no_separator _ (hn c hc)
      · rw [hs c hc]
        have hl := hp ((escapes_singleton_iff e prev).1 (h.1 hc))
        exact ⟨fun _ ↦ (escapes_singleton_iff e prev').2 hl, trivial⟩
    · cases hc
      rw [he]
      rfl

theorem guardedFrom_flatMap_iff {e : Char} {f : Char → Text} {s : Text}
    (hs : ∀ c ∈ s, sep c = true → f c = [c])
    (hn : ∀ c ∈ s, sep c = false → ∀ d ∈ f c, sep d = false)
    (hl : ∀ c ∈ s, ∃ d, (f c).getLast? = some d ∧ (d = e ↔ c = e)) {prev prev' : Option Char}
    (hp : prev' = some e ↔ prev = some e) :
    GuardedFrom sep [e] prev' (s.flatMap f) ↔ GuardedFrom sep [e] prev s := by
  induction s generalizing prev prev' with
  | nil => rfl
  | cons c s ih =>
    obtain ⟨d, hd, hde⟩ := hl c List.mem_cons_self
    have hrest : GuardedFrom sep [e] (some d) (s.flatMap f) ↔ GuardedFrom sep [e] (some c) s := by
      apply ih
      · exact fun b hb ↦ hs b (List.mem_cons_of_mem c hb)
      · exact fun b hb ↦ hn b (List.mem_cons_of_mem c hb)
      · exact fun b hb ↦ hl b (List.mem_cons_of_mem c hb)
      · rw [Option.some_inj, Option.some_inj, hde]
    rw [List.flatMap_cons, guardedFrom_append, hd, Option.some_or, hrest, GuardedFrom]
    refine and_congr_left fun _ ↦ ?_
    cases hc : sep c with
    | true =>
      rw [hs c List.mem_cons_self hc, GuardedFrom, hc, escapes_singleton_iff, escapes_singleton_iff,
        hp]
      simp [GuardedFrom]
    | false =>
      have hguard : GuardedFrom sep [e] prev' (f c) :=
        guardedFrom_of_no_separator prev' (hn c List.mem_cons_self hc)
      simp [hguard]

theorem getLast?_flatMap_eq_iff {e : Char} {f : Char → Text} {s : Text}
    (hl : ∀ c ∈ s, ∃ d, (f c).getLast? = some d ∧ (d = e ↔ c = e)) :
    (s.flatMap f).getLast? = some e ↔ s.getLast? = some e := by
  rw [List.getLast?_flatMap, ← List.head?_reverse]
  cases hr : s.reverse with
  | nil => simp
  | cons c r =>
    have hc : c ∈ s := by
      rw [← List.mem_reverse, hr]
      exact List.mem_cons_self
    obtain ⟨d, hd, hde⟩ := hl c hc
    rw [List.findSome?_cons, hd, List.head?_cons, Option.some_inj, Option.some_inj, hde]

theorem Guarded.of_trim {esc s : Text} (hsep : ∀ c, Text.isBlank c = true → sep c = false)
    (h : Guarded sep esc (Text.trim s)) : Guarded sep esc s := by
  obtain ⟨a, b, hs, ha, hb⟩ := Text.exists_trim s
  have hblank {t : Text} (ht : ∀ c ∈ t, Text.isBlank c = true) (prev : Option Char) :
      GuardedFrom sep esc prev t :=
    guardedFrom_of_no_separator prev fun c hc ↦ hsep c (ht c hc)
  rw [hs]
  refine (guardedFrom_append none _ _).2 ⟨(guardedFrom_append none _ _).2 ⟨?_, ?_⟩, ?_⟩
  · exact hblank ha none
  · exact h.from _
  · exact hblank hb _

theorem splitCommand_append {e : Char} {s : Text} (hs : Guarded isCommandSeparator [e] s)
    (hl : escapes [e] s.getLast? = false) (command : Text) :
    splitCommand [e] (s ++ '|' :: command) = (s, some command) := by
  have hcut : cutFrom isCommandSeparator [e] none (s ++ '|' :: command) = _ :=
    cutFrom_append hs ('|' :: command)
  rw [Option.or_none, cutFrom, hl] at hcut
  unfold splitCommand cut?
  rw [hcut]
  simp [isCommandSeparator]

end BookIndex.Markup
