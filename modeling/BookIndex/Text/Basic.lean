namespace BookIndex

/-- A text is the sequence of its code points. -/
abbrev Text := List Char

namespace Text

abbrev Ranges := List (Nat × Nat)

/-- Whether a character lies in one of the ranges; those that start behind it are not looked at. -/
def Ranges.has (table : Ranges) (c : Char) : Bool :=
  (table.takeWhile (·.1 ≤ c.toNat)).any (c.toNat ≤ ·.2)

def isChar (t : Text) (c : Char) : Bool := t == [c]

def trimBy (p : Char → Bool) (s : Text) : Text :=
  ((s.dropWhile p).reverse.dropWhile p).reverse

/-- White space: the code points that separate words, lines or paragraphs, and the four
information separators. -/
def blankRanges : Ranges :=
  [(0x09, 0x0D), (0x1C, 0x20), (0x85, 0x85), (0xA0, 0xA0), (0x1680, 0x1680), (0x2000, 0x200A),
    (0x2028, 0x2029), (0x202F, 0x202F), (0x205F, 0x205F), (0x3000, 0x3000)]

def isBlank (c : Char) : Bool := blankRanges.has c

def trim (s : Text) : Text := trimBy isBlank s

def allBlank (s : Text) : Bool := s.all isBlank

def occurs (pat : Text) : Text → Bool
  | [] => pat.isEmpty
  | c :: s => pat.isPrefixOf (c :: s) || occurs pat s

def cut? (sep : Text) : Text → Option (Text × Text)
  | [] => if sep.isEmpty then some ([], []) else none
  | c :: s =>
    if sep.isPrefixOf (c :: s) then some ([], (c :: s).drop sep.length)
    else (cut? sep s).map fun r ↦ (c :: r.1, r.2)

def replaceFrom (pat new : Text) : Nat → Text → Text
  | _, [] => []
  | skip + 1, _ :: s => replaceFrom pat new skip s
  | 0, c :: s =>
    if pat.isPrefixOf (c :: s) then new ++ replaceFrom pat new (pat.length - 1) s
    else c :: replaceFrom pat new 0 s

/-- Replaces the occurrences of a non-empty `pat`, found from left to right without overlap. -/
def replace (pat new s : Text) : Text := replaceFrom pat new 0 s

def unifyLines : Text → Text
  | [] => []
  | [c] => [if c = '\r' then '\n' else c]
  | c :: d :: s =>
    if c = '\r' then if d = '\n' then '\n' :: unifyLines s else '\n' :: unifyLines (d :: s)
    else c :: unifyLines (d :: s)

def byteLength (s : Text) : Nat := s.foldr (fun c n ↦ c.utf8Size + n) 0

def ofNat (n : Nat) : Text := Nat.toDigits 10 n

def ofInt : Int → Text
  | .ofNat n => ofNat n
  | .negSucc n => '-' :: ofNat (n + 1)

def le : Text → Text → Bool
  | [], _ => true
  | _ :: _, [] => false
  | a :: s, b :: t => a.toNat < b.toNat || (a == b && le s t)

theorem Ranges.has_cons (r : Nat × Nat) (table : Ranges) (c : Char) :
    Ranges.has (r :: table) c =
      (decide (r.1 ≤ c.toNat) && (decide (c.toNat ≤ r.2) || Ranges.has table c)) := by
  by_cases h : r.1 ≤ c.toNat <;> simp [Ranges.has, h]

theorem Ranges.exists_of_has {table : Ranges} {c : Char} (h : table.has c = true) :
    ∃ r ∈ table, r.1 ≤ c.toNat ∧ c.toNat ≤ r.2 := by
  induction table with
  | nil => simp [Ranges.has] at h
  | cons r table ih =>
    rw [has_cons] at h
    simp only [Bool.and_eq_true, Bool.or_eq_true, decide_eq_true_eq] at h
    rcases h with ⟨hr, he | ht⟩
    · exact ⟨r, by simp, hr, he⟩
    · obtain ⟨q, hq, hc⟩ := ih ht
      exact ⟨q, by simp [hq], hc⟩

theorem Ranges.has_of_mem {table : Ranges} (sorted : table.Pairwise (·.1 ≤ ·.1)) {c : Char}
    {r : Nat × Nat} (hr : r ∈ table) (h₁ : r.1 ≤ c.toNat) (h₂ : c.toNat ≤ r.2) :
    table.has c = true := by
  induction table with
  | nil => simp at hr
  | cons q table ih =>
    rw [List.pairwise_cons] at sorted
    rw [has_cons]
    simp only [Bool.and_eq_true, Bool.or_eq_true, decide_eq_true_eq]
    rcases List.mem_cons.1 hr with rfl | ht
    · exact ⟨h₁, .inl h₂⟩
    · exact ⟨Nat.le_trans (sorted.1 r ht) h₁, .inr (ih sorted.2 ht)⟩

theorem isChar_iff (t : Text) (c : Char) : t.isChar c = true ↔ t = [c] := by
  simp [isChar]

@[simp] theorem trim_nil : trim [] = [] := rfl

@[simp] theorem replace_nil (pat new : Text) : replace pat new [] = [] := rfl

end Text
end BookIndex
