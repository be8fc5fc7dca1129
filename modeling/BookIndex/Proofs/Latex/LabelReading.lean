import BookIndex.Proofs.Latex.Labels

namespace BookIndex.Latex

/-- The value of a hexadecimal digit in upper case. -/
def hexValue? (c : Char) : Option ℕ :=
  if '0' ≤ c ∧ c ≤ '9' then some (c.toNat - 0x30)
  else if 'A' ≤ c ∧ c ≤ 'F' then some (c.toNat - 0x37)
  else none

def byte? (high low : Char) : Option UInt8 := do
  return UInt8.ofNat (16 * (← hexValue? high) + (← hexValue? low))

def labelBytes? : Text → Option (List UInt8)
  | [] => some []
  | '=' :: high :: low :: s => do return (← byte? high low) :: (← labelBytes? s)
  | c :: s => if c = '=' ∨ 128 ≤ c.toNat then none else (labelBytes? s).map (c.val.toUInt8 :: ·)

/-- The text whose UTF-8 form the bytes of a label are. -/
def readLabel? (label : Text) : Option Text := do
  let bytes ← labelBytes? label
  let chars ← bytes.toByteArray.utf8Decode?
  return chars.toList

theorem byte?_hexDigit (b : UInt8) :
    byte? (hexDigit (b.toNat / 16)) (hexDigit (b.toNat % 16)) = some b := by
  have hdigits : ∀ n < 16, hexValue? (hexDigit n) = some n := by decide
  have hb := b.toNat_lt
  have hsum : 16 * (b.toNat / 16) + b.toNat % 16 = b.toNat := Nat.div_add_mod _ _
  rw [byte?, hdigits _ (by omega), hdigits _ (by omega)]
  change some (UInt8.ofNat (16 * (b.toNat / 16) + b.toNat % 16)) = some b
  rw [hsum, UInt8.ofNat_toNat]

theorem labelBytes?_escapeByte (b : UInt8) (s : Text) :
    labelBytes? (escapeByte b ++ s) = (labelBytes? s).map (b :: ·) := by
  simp only [escapeByte, List.cons_append, List.nil_append, labelBytes?, byte?_hexDigit]
  cases labelBytes? s <;> rfl

theorem labelBytes?_escapeBytes (bs : List UInt8) (s : Text) :
    labelBytes? (bs.flatMap escapeByte ++ s) = (labelBytes? s).map (bs ++ ·) := by
  induction bs with
  | nil => simp
  | cons b bs ih =>
    rw [List.flatMap_cons, List.append_assoc, labelBytes?_escapeByte, ih, Option.map_map]
    rfl

theorem labelBytes?_cons {c : Char} (hc : c ≠ '=') (hascii : c.toNat < 128) (s : Text) :
    labelBytes? (c :: s) = (labelBytes? s).map (c.val.toUInt8 :: ·) := by
  have hkept : ¬(c = '=' ∨ 128 ≤ c.toNat) := by
    rw [not_or]
    exact ⟨hc, by omega⟩
  rw [labelBytes?, if_neg hkept]
  intro _ _ _ h
  exact absurd h hc

theorem utf8EncodeChar_of_ascii {c : Char} (h : c.toNat < 128) :
    String.utf8EncodeChar c = [c.val.toUInt8] := by
  apply String.utf8EncodeChar_eq_singleton
  rw [Char.utf8Size_eq_one_iff, UInt32.le_iff_toNat_le]
  exact Nat.le_of_lt_succ h

theorem labelBytes?_escapeLabel (s : Text) :
    labelBytes? (escapeLabel s) = some (s.flatMap String.utf8EncodeChar) := by
  induction s with
  | nil => rfl
  | cons c s ih =>
    rw [escapeLabel, List.flatMap_cons, List.flatMap_cons]
    rw [escapeLabel] at ih
    split
    · rw [labelBytes?_escapeBytes, ih, Option.map_some]
    · rename_i hsafe
      rw [Bool.or_eq_true, not_or, decide_eq_true_eq] at hsafe
      have hascii : c.toNat < 128 := Nat.lt_of_not_le hsafe.1
      have hequals : c ≠ '=' := by
        intro h
        rw [h] at hsafe
        exact hsafe.2 (by decide)
      rw [List.singleton_append, labelBytes?_cons hequals hascii, ih,
        utf8EncodeChar_of_ascii hascii]
      rfl

theorem readLabel?_escapeLabel (s : Text) : readLabel? (escapeLabel s) = some s := by
  have hbytes : (s.flatMap String.utf8EncodeChar).toByteArray = s.utf8Encode := rfl
  rw [readLabel?, labelBytes?_escapeLabel, Option.bind_eq_bind, Option.bind_some, hbytes,
    List.utf8Decode?_utf8Encode]
  rfl

theorem isSome_labelBytes?_escaped (high low : Char) (s : Text) :
    (labelBytes? ('=' :: high :: low :: s)).isSome = true ↔ (hexValue? high).isSome = true ∧
      (hexValue? low).isSome = true ∧ (labelBytes? s).isSome = true := by
  rw [labelBytes?, byte?]
  cases hexValue? high <;> cases hexValue? low <;> cases labelBytes? s <;> simp

theorem ascii_of_hexValue? {c : Char} (h : (hexValue? c).isSome = true) : c.toNat < 128 := by
  have hle {d : Char} (hd : c ≤ d) : c.toNat ≤ d.toNat := hd
  unfold hexValue? at h
  split at h
  · rename_i hdigit
    exact Nat.lt_of_le_of_lt (hle hdigit.2) (by decide)
  · split at h
    · rename_i hletter
      exact Nat.lt_of_le_of_lt (hle hletter.2) (by decide)
    · cases h

theorem ascii_of_labelBytes? {s : Text} (h : (labelBytes? s).isSome = true) :
    ∀ c ∈ s, c.toNat < 128 := by
  fun_induction labelBytes? s with
  | case1 => exact List.forall_mem_nil _
  | case2 high low s ih =>
    obtain ⟨hhigh, hlow, hs⟩ := (isSome_labelBytes?_escaped high low s).1 h
    exact List.forall_mem_cons.2 ⟨by decide, List.forall_mem_cons.2
      ⟨ascii_of_hexValue? hhigh, List.forall_mem_cons.2 ⟨ascii_of_hexValue? hlow, ih hs⟩⟩⟩
  | case3 => cases h
  | case4 c s _ hc ih =>
    rw [not_or] at hc
    rw [Option.isSome_map] at h
    exact List.forall_mem_cons.2 ⟨Nat.lt_of_not_le hc.2, ih h⟩

theorem digits_of_labelBytes? {s : Text} (h : (labelBytes? s).isSome = true) {a b : Text}
    (hs : s = a ++ '=' :: b) : ∃ high low t, b = high :: low :: t ∧
      (hexValue? high).isSome = true ∧ (hexValue? low).isSome = true := by
  have hequals : (hexValue? '=').isSome ≠ true := by decide
  fun_induction labelBytes? s generalizing a with
  | case1 => simp at hs
  | case2 high low s ih =>
    obtain ⟨hhigh, hlow, hrest⟩ := (isSome_labelBytes?_escaped high low s).1 h
    rcases a with _ | ⟨x, _ | ⟨y, _ | ⟨z, a⟩⟩⟩
    · obtain ⟨-, rfl⟩ := List.cons_eq_cons.1 hs
      exact ⟨high, low, s, rfl, hhigh, hlow⟩
    · simp only [List.cons_append, List.nil_append, List.cons.injEq] at hs
      exact absurd (hs.2.1 ▸ hhigh) hequals
    · simp only [List.cons_append, List.nil_append, List.cons.injEq] at hs
      exact absurd (hs.2.2.1 ▸ hlow) hequals
    · simp only [List.cons_append, List.cons.injEq] at hs
      exact ih hrest hs.2.2.2
  | case3 => cases h
  | case4 c s _ hc ih =>
    rw [not_or] at hc
    rw [Option.isSome_map] at h
    cases a with
    | nil => exact absurd (List.cons_eq_cons.1 hs).1 hc.1
    | cons x a => exact ih h (List.cons_eq_cons.1 hs).2

theorem isSome_labelBytes?_escapeLabel (s : Text) :
    (labelBytes? (escapeLabel s)).isSome = true := by
  rw [labelBytes?_escapeLabel]
  rfl

/-- Different texts have different labels. A label is made of characters of ASCII without a meaning
of their own in LaTeX, with equals signs only before two digits, and is read back as its text. -/
theorem escapeLabel_reads_back : Function.Injective escapeLabel ∧ ∀ s : Text,
    (∀ c ∈ escapeLabel s, c.toNat < 128 ∧ c ∉ ['%', '#', '$', '{', '}', '[', ']', '&', '\\']) ∧
    (∀ a b, escapeLabel s = a ++ '=' :: b → ∃ high low t, b = high :: low :: t ∧
      (hexValue? high).isSome = true ∧ (hexValue? low).isSome = true) ∧
    readLabel? (escapeLabel s) = some s := by
  constructor
  · intro s t h
    apply Option.some.inj
    rw [← readLabel?_escapeLabel s, h, readLabel?_escapeLabel]
  · intro s
    have hread := isSome_labelBytes?_escapeLabel s
    refine ⟨fun c hc ↦ ⟨ascii_of_labelBytes? hread c hc, ?_⟩, fun a b ↦ digits_of_labelBytes? hread,
      readLabel?_escapeLabel s⟩
    intro hsign
    have hunsafe : ['%', '#', '$', '{', '}', '[', ']', '&', '\\'].all
        (fun d ↦ unsafeChars.contains d && d != '=') = true := by decide
    have hd := List.all_eq_true.1 hunsafe c hsign
    rw [Bool.and_eq_true, List.contains_iff_mem, bne_iff_ne] at hd
    exact not_mem_escapeLabel hd.1 hd.2 s hc

example : escapeLabel "ä=b".toList = "=C3=A4=3Db".toList := by decide

end BookIndex.Latex
