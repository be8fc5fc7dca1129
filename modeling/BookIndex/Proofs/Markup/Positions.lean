import BookIndex.Proofs.Markup.Joined
import BookIndex.Proofs.Text.Blanks

namespace BookIndex.Markup

def slicesFrom (s : Text) (first : ℕ) : List ℕ → List Text
  | [] => [s.drop first]
  | i :: is => (s.take i).drop first :: slicesFrom s (i + 1) is

/-- The slices of a text before, between and behind some of its indices. -/
def slices (s : Text) (is : List ℕ) : List Text := slicesFrom s 0 is

variable {sep : Char → Bool} {esc : Text}

theorem slicesFrom_cons (c : Char) (s : Text) (first : ℕ) (is : List ℕ) :
    slicesFrom (c :: s) (first + 1) (is.map (· + 1)) = slicesFrom s first is := by
  induction is generalizing first with
  | nil => rfl
  | cons i is ih =>
    rw [List.map_cons, slicesFrom, slicesFrom, ih, List.take_succ_cons, List.drop_succ_cons]

theorem positionsFrom_succ (prev : Option Char) (i : ℕ) (s : Text) :
    positionsFrom sep esc prev (i + 1) s = (positionsFrom sep esc prev i s).map (· + 1) := by
  induction s generalizing prev i with
  | nil => rfl
  | cons c s ih =>
    rw [positionsFrom, positionsFrom, ih]
    split <;> rfl

theorem piecesFrom_eq_slicesFrom (prev : Option Char) (s : Text) :
    (piecesFrom sep esc prev s).1 :: (piecesFrom sep esc prev s).2 =
      slicesFrom s 0 (positionsFrom sep esc prev 0 s) := by
  induction s generalizing prev with
  | nil => rfl
  | cons c s ih =>
    have hs := ih (some c)
    rw [piecesFrom, positionsFrom, positionsFrom_succ]
    split
    · rw [slicesFrom, slicesFrom_cons, ← hs]
      rfl
    · cases hp : positionsFrom sep esc (some c) 0 s with
      | nil =>
        rw [hp, slicesFrom] at hs
        obtain ⟨hfirst, hrest⟩ := List.cons_eq_cons.1 hs
        rw [List.map_nil, slicesFrom, hfirst, hrest]
        rfl
      | cons i is =>
        rw [hp, slicesFrom] at hs
        obtain ⟨hfirst, hrest⟩ := List.cons_eq_cons.1 hs
        rw [List.map_cons, slicesFrom, slicesFrom_cons, hfirst, hrest]
        rfl

theorem pieces_eq_slices (s : Text) : pieces sep esc s = slices s (positions sep esc s) :=
  piecesFrom_eq_slicesFrom none s

theorem pairwise_positionsFrom (prev : Option Char) (s : Text) :
    (positionsFrom sep esc prev 0 s).Pairwise (· < ·) := by
  induction s generalizing prev with
  | nil => exact List.Pairwise.nil
  | cons c s ih =>
    have hrest : ((positionsFrom sep esc (some c) 0 s).map (· + 1)).Pairwise (· < ·) :=
      (ih (some c)).map _ fun _ _ ↦ Nat.succ_lt_succ
    rw [positionsFrom, positionsFrom_succ]
    split
    · refine List.pairwise_cons.2 ⟨fun i hi ↦ ?_, hrest⟩
      obtain ⟨j, -, rfl⟩ := List.mem_map.1 hi
      exact Nat.succ_pos j
    · exact hrest

def before (prev : Option Char) (s : Text) : ℕ → Option Char
  | 0 => prev
  | j + 1 => s[j]?

theorem before_cons_succ (prev : Option Char) (c : Char) (s : Text) (i : ℕ) :
    before prev (c :: s) (i + 1) = before (some c) s i := by
  cases i <;> rfl

theorem mem_positionsFrom_iff {prev : Option Char} {s : Text} {i : ℕ} :
    i ∈ positionsFrom sep esc prev 0 s ↔
      (∃ c, s[i]? = some c ∧ sep c = true) ∧ escapes esc (before prev s i) = false := by
  induction s generalizing prev i with
  | nil => simp [positionsFrom]
  | cons d s ih =>
    rw [positionsFrom, positionsFrom_succ]
    cases i with
    | zero =>
      have hrest : 0 ∉ (positionsFrom sep esc (some d) 0 s).map (· + 1) := by simp
      have hd : (∃ c, (d :: s)[0]? = some c ∧ sep c = true) ↔ sep d = true := by simp
      rw [hd, before]
      split
      · rename_i h
        simpa using h
      · rename_i h
        simpa [hrest] using h
    | succ i =>
      have hrest : i + 1 ∈ (positionsFrom sep esc (some d) 0 s).map (· + 1) ↔
          i ∈ positionsFrom sep esc (some d) 0 s :=
        List.mem_map_of_injective Nat.succ_injective
      rw [before_cons_succ, List.getElem?_cons_succ, ← ih, ← hrest]
      split
      · exact List.mem_cons.trans (or_iff_right (Nat.succ_ne_zero i))
      · rfl

section

variable (hsep : ∀ d, sep d = true → escapes esc (some d) = false)
  (hblank : ∀ d, Text.isBlank d = true → escapes esc (some d) = false) {s part : Text}

include hsep hblank

theorem guarded_of_mem_split (h : part ∈ split sep esc s) : Guarded sep esc part := by
  obtain ⟨p, hp, rfl⟩ := List.mem_map.1 h
  exact (guarded_of_mem_pieces hsep hp).trim hblank

theorem split_of_mem_split (h : part ∈ split sep esc s) : split sep esc part = [part] := by
  rw [split, pieces_of_guarded (guarded_of_mem_split hsep hblank h), List.map_singleton]
  obtain ⟨p, -, rfl⟩ := List.mem_map.1 h
  rw [Text.trim_trim]

theorem splitNonempty_of_mem_splitNonempty (h : part ∈ splitNonempty sep esc s) :
    splitNonempty sep esc part = [part] := by
  obtain ⟨hmem, hne⟩ := List.mem_filter.1 h
  rw [splitNonempty, split_of_mem_split hsep hblank hmem]
  exact List.filter_cons_of_pos hne

end

section

variable {s : Text} {c : Char} {esc : Option Char}

theorem escapes_toList_of_ne {d : Char} (h : ∀ e ∈ esc, e ≠ d) :
    escapes esc.toList (some d) = false := by
  cases esc with
  | none => rfl
  | some e => exact escapes_singleton_of_ne (h e rfl)

theorem mem_positions_iff {i : ℕ} : i ∈ positions (· == c) esc.toList s ↔
    s[i]? = some c ∧ ∀ e ∈ esc, ∀ j, i = j + 1 → s[j]? ≠ some e := by
  have hsep : (∃ d, s[i]? = some d ∧ (d == c) = true) ↔ s[i]? = some c := by simp
  have hbefore : escapes esc.toList (before none s i) = false ↔
      ∀ e ∈ esc, ∀ j, i = j + 1 → s[j]? ≠ some e := by
    cases esc with
    | none => simp
    | some e =>
      rw [Option.toList_some, Bool.eq_false_iff, ne_eq, escapes_singleton_iff]
      cases i with
      | zero => simp [before]
      | succ i => simp [before]
  rw [positions, mem_positionsFrom_iff, hsep, hbefore]

end

/-- The unescaped separators of a text are at ascending indices, and the text is split into its
slices between them, trimmed. No part has an unescaped separator, so that it is split into itself. -/
theorem split_at_positions (s : Text) (c : Char) (esc : Option Char)
    (he : ∀ e ∈ esc, Text.isBlank e = false ∧ e ≠ c) :
    let sep := (· == c)
    let ps := positions sep esc.toList s
    ps.Pairwise (· < ·) ∧
    (∀ i, i ∈ ps ↔ s[i]? = some c ∧ ∀ e ∈ esc, ∀ j, i = j + 1 → s[j]? ≠ some e) ∧
    [c].intercalate (slices s ps) = s ∧
    split sep esc.toList s = (slices s ps).map Text.trim ∧
    (split sep esc.toList s).length = ps.length + 1 ∧
    splitNonempty sep esc.toList s = ((slices s ps).map Text.trim).filter (· ≠ []) ∧
    (∀ part ∈ split sep esc.toList s,
      positions sep esc.toList part = [] ∧ split sep esc.toList part = [part]) ∧
    ∀ part ∈ splitNonempty sep esc.toList s, splitNonempty sep esc.toList part = [part] := by
  intro sep ps
  have hpieces : pieces sep esc.toList s = slices s ps := pieces_eq_slices s
  have hsep : ∀ d, sep d = true → escapes esc.toList (some d) = false := by
    intro d hd
    rw [eq_of_beq hd]
    exact escapes_toList_of_ne fun e hmem ↦ (he e hmem).2
  have hblank : ∀ d, Text.isBlank d = true → escapes esc.toList (some d) = false := by
    intro d hd
    exact escapes_toList_of_ne fun e hmem ↦ (Text.ne_of_isBlank (he e hmem).1 hd).symm
  refine ⟨pairwise_positionsFrom none s, fun i ↦ mem_positions_iff, ?_, ?_, ?_, ?_, ?_, ?_⟩
  · rw [← hpieces]
    exact intercalate_pieces (fun d hd ↦ eq_of_beq hd) s
  · rw [split, hpieces]
  · rw [split, List.length_map, length_pieces]
  · rw [splitNonempty, split, hpieces]
    refine List.filter_congr fun part _ ↦ ?_
    cases part <;> rfl
  · intro part hpart
    exact ⟨(positions_eq_nil_iff part).2 (guarded_of_mem_split hsep hblank hpart),
      split_of_mem_split hsep hblank hpart⟩
  · intro part hpart
    exact splitNonempty_of_mem_splitNonempty hsep hblank hpart

/-- The blank is the separator, one of the three is escaped, and the last part is empty. -/
theorem split_at_positions_blank :
    (∀ e ∈ some '"', Text.isBlank e = false ∧ e ≠ ' ') ∧
    positions (· == ' ') ['"'] "a\" b \tc ".toList = [4, 7] ∧
    [' '].intercalate ["a\" b".toList, "\tc".toList, []] = "a\" b \tc ".toList ∧
    split (· == ' ') ['"'] "a\" b \tc ".toList = ["a\" b".toList, "c".toList, []] ∧
    split (· == ' ') ['"'] "a\" b".toList = ["a\" b".toList] := by
  have he : ∀ e ∈ some '"', Text.isBlank e = false ∧ e ≠ ' ' := by
    rintro _ ⟨⟩
    decide
  have hps : positions (· == ' ') ['"'] "a\" b \tc ".toList = [4, 7] := by decide
  have hslices : slices "a\" b \tc ".toList [4, 7] = ["a\" b".toList, "\tc".toList, []] := by decide
  obtain ⟨-, -, hjoin, hsplit, -, -, hparts, -⟩ :=
    split_at_positions "a\" b \tc ".toList ' ' (some '"') he
  have hps' : positions (· == ' ') (some '"').toList "a\" b \tc ".toList = [4, 7] := hps
  rw [hps', hslices] at hjoin hsplit
  have hall : split (· == ' ') ['"'] "a\" b \tc ".toList = ["a\" b".toList, "c".toList, []] :=
    hsplit.trans (by decide)
  refine ⟨he, hps, hjoin, hall, (hparts "a\" b".toList ?_).2⟩
  exact hall ▸ List.mem_cons_self

end BookIndex.Markup
