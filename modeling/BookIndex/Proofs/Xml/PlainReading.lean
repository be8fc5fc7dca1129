import BookIndex.Proofs.Xml.Entities
import BookIndex.Proofs.Xml.Leaf
import BookIndex.Proofs.Xml.Names

namespace BookIndex.Xml

def endsName (c : Char) : Bool := Text.isBlank c || c == '>' || c == '/'

def readValue? : Text → Option (Text × Text)
  | [] => none
  | q :: s => if q ∈ quotes then (Text.cut? [q] s).map fun r ↦ (decode r.1, r.2) else none

def readAttr? (s : Text) : Option ((Text × Text) × Text) :=
  (Text.cut? ['='] s).bind fun r ↦ (readValue? r.2).map fun v ↦ ((r.1, v.1), v.2)

def readTagEnd? : Text → Option (Bool × Text)
  | '>' :: s => some (false, s)
  | '/' :: '>' :: s => some (true, s)
  | _ => none

section

variable {s rest : Text}

theorem length_lt_of_readValue? {value : Text} (h : readValue? s = some (value, rest)) :
    rest.length < s.length := by
  cases s with
  | nil => cases h
  | cons q s =>
    rw [readValue?] at h
    split at h
    · obtain ⟨r, hr, he⟩ := Option.map_eq_some_iff.1 h
      cases he
      exact Nat.lt_succ_of_lt (Text.length_lt_of_cut? (List.cons_ne_nil q []) hr)
    · cases h

theorem length_lt_of_readAttr? {a : Text × Text} (h : readAttr? s = some (a, rest)) :
    rest.length < s.length := by
  obtain ⟨r, hr, hrest⟩ := Option.bind_eq_some_iff.1 h
  obtain ⟨v, hv, he⟩ := Option.map_eq_some_iff.1 hrest
  cases he
  exact (length_lt_of_readValue? hv).trans (Text.length_lt_of_cut? (List.cons_ne_nil '=' []) hr)

end

def readAttrs? (s : Text) : Option (Attrs × Bool × Text) :=
  match readTagEnd? (s.dropWhile Text.isBlank) with
  | some tagEnd => some ([], tagEnd)
  | none =>
    match _h : readAttr? (s.dropWhile Text.isBlank) with
    | some (a, rest) => (readAttrs? rest).map fun r ↦ (a :: r.1, r.2)
    | none => none
termination_by s.length
decreasing_by
  have hlt := length_lt_of_readAttr? _h
  exact hlt.trans_le (List.dropWhile_suffix Text.isBlank).length_le

/-- The tag at the beginning of a text, and what stands behind it. -/
def readTag? : Text → Option (Event × Text)
  | '<' :: s =>
    let name := s.takeWhile (!endsName ·)
    (readAttrs? (s.dropWhile (!endsName ·))).map fun r ↦
      (if r.2.1 then .empty name r.1 else .start name r.1, r.2.2)
  | _ => none

/-- The element that a text is, with character data in it and no other element. -/
def readElement? (s : Text) : Option Leaf :=
  match readTag? s with
  | some (.start name attrs, rest) =>
    (Text.cut? ['<'] rest).bind fun r ↦
      if r.2 = '/' :: name ++ ['>'] then some ⟨name, attrs, decode r.1⟩ else none
  | _ => none

theorem isBlank_of_isNameChar {c : Char} (h : isNameChar c = true) : Text.isBlank c = false := by
  have hletters : apart Text.blankRanges Text.letterRanges = true := by decide +kernel
  have hnumbers : apart Text.blankRanges Text.numberRanges = true := by decide +kernel
  rw [Bool.eq_false_iff]
  intro hblank
  have hsign {d : Char} (hd : Text.isBlank d = false) : (c == d) = false :=
    Text.beq_eq_false_of_isBlank hd hblank
  have hletter : Text.isLetter c = false := has_eq_false_of_apart hletters hblank
  have hnumber : Text.numberRanges.has c = false := has_eq_false_of_apart hnumbers hblank
  have hlow : Text.isBlank '_' = false := by decide
  have hstop : Text.isBlank '.' = false := by decide
  have hhyphen : Text.isBlank '-' = false := by decide
  have hcolon : Text.isBlank ':' = false := by decide
  rw [isNameChar, isIdChar, Text.isWord, hletter, hnumber, hsign hlow, hsign hstop, hsign hhyphen,
    hsign hcolon] at h
  cases h

theorem ne_of_isNameChar {c d : Char} (hc : isNameChar c = true) (hd : isNameChar d = false) :
    c ≠ d := by
  rintro rfl
  rw [hc] at hd
  cases hd

theorem not_endsName_of_isNameChar {c : Char} (h : isNameChar c = true) : endsName c = false := by
  have hmore : c ≠ '>' := ne_of_isNameChar h (by decide)
  have hslash : c ≠ '/' := ne_of_isNameChar h (by decide)
  rw [endsName, isBlank_of_isNameChar h, beq_false_of_ne hmore, beq_false_of_ne hslash]
  rfl

theorem readTagEnd?_of_isNameChar {c : Char} (h : isNameChar c = true) (s : Text) :
    readTagEnd? (c :: s) = none := by
  have hmore : c ≠ '>' := ne_of_isNameChar h (by decide)
  have hslash : c ≠ '/' := ne_of_isNameChar h (by decide)
  unfold readTagEnd?
  split
  · rename_i he
    exact absurd (List.cons.inj he).1 hmore
  · rename_i he
    exact absurd (List.cons.inj he).1 hslash
  · rfl

theorem readAttrs?_of_end {s : Text} {tagEnd : Bool × Text}
    (h : readTagEnd? (s.dropWhile Text.isBlank) = some tagEnd) :
    readAttrs? s = some ([], tagEnd) := by
  rw [readAttrs?, h]

theorem readAttrs?_of_attr {s rest : Text} {a : Text × Text}
    (hend : readTagEnd? (s.dropWhile Text.isBlank) = none)
    (h : readAttr? (s.dropWhile Text.isBlank) = some (a, rest)) :
    readAttrs? s = (readAttrs? rest).map fun r ↦ (a :: r.1, r.2) := by
  rw [readAttrs?, hend]
  dsimp only
  split
  · rename_i he
    rw [h] at he
    cases he
    rfl
  · rename_i he
    rw [h] at he
    cases he

theorem span_name {name t : Text} (hname : PlainName name)
    (ht : ∀ c ∈ t.head?, endsName c = true) :
    (name ++ t).takeWhile (!endsName ·) = name ∧ (name ++ t).dropWhile (!endsName ·) = t := by
  have hchars : ∀ c ∈ name, (!endsName c) = true := fun c hc ↦ by
    rw [not_endsName_of_isNameChar (hname.2 c hc), Bool.not_false]
  rw [List.takeWhile_append_of_pos hchars, List.dropWhile_append_of_pos hchars]
  cases t with
  | nil => exact ⟨List.append_nil name, rfl⟩
  | cons c t => simp [ht c rfl]

section

variable {q : Char} (hq : q ∈ quotes)

include hq

theorem readValue?_quoted (value rest : Text) :
    readValue? (q :: (escapeAttr value ++ q :: rest)) = some (value, rest) := by
  have hcut : Text.cut? [q] (escapeAttr value ++ q :: rest) = some (escapeAttr value, rest) :=
    Text.cut?_append_self (quote_not_mem_escapeAttr hq value) rest
  rw [readValue?, if_pos hq, hcut, Option.map_some, decode_escapeAttr]

theorem readAttr?_written {a : Text × Text} (ha : PlainName a.1) (rest : Text) :
    readAttr? (a.1 ++ '=' :: q :: (escapeAttr a.2 ++ q :: rest)) = some (a, rest) := by
  have hkey : '=' ∉ a.1 := fun h ↦ ne_of_isNameChar (ha.2 '=' h) (by decide) rfl
  have hcut : Text.cut? ['='] (a.1 ++ '=' :: q :: (escapeAttr a.2 ++ q :: rest)) =
      some (a.1, q :: (escapeAttr a.2 ++ q :: rest)) := Text.cut?_append_self hkey _
  rw [readAttr?, hcut, Option.bind_some, readValue?_quoted hq, Option.map_some]

theorem readAttrs?_writeAttrs {attrs : Attrs} (hattrs : ∀ a ∈ attrs, PlainName a.1) {s : Text}
    {tagEnd : Bool × Text} (hend : readTagEnd? (s.dropWhile Text.isBlank) = some tagEnd) :
    readAttrs? (writeAttrs [q] attrs ++ s) = some (attrs, tagEnd) := by
  induction attrs with
  | nil => exact readAttrs?_of_end hend
  | cons a attrs ih =>
    obtain ⟨ha, hrest⟩ := List.forall_mem_cons.1 hattrs
    let rest := writeAttrs [q] attrs ++ s
    have hwritten : writeAttrs [q] (a :: attrs) ++ s =
        ' ' :: (a.1 ++ '=' :: q :: (escapeAttr a.2 ++ q :: rest)) := by
      simp [writeAttrs, rest]
    obtain ⟨c, name, hname⟩ := List.exists_cons_of_ne_nil ha.1
    have hc : isNameChar c = true := ha.2 c (hname ▸ List.mem_cons_self)
    have hdrop : (writeAttrs [q] (a :: attrs) ++ s).dropWhile Text.isBlank =
        a.1 ++ '=' :: q :: (escapeAttr a.2 ++ q :: rest) := by
      have hspace : Text.isBlank ' ' = true := by decide
      rw [hwritten, hname, List.dropWhile_cons_of_pos hspace, List.cons_append,
        List.dropWhile_cons_of_neg (Bool.eq_false_iff.1 (isBlank_of_isNameChar hc))]
    have hnone : readTagEnd? ((writeAttrs [q] (a :: attrs) ++ s).dropWhile Text.isBlank) = none := by
      rw [hdrop, hname]
      exact readTagEnd?_of_isNameChar hc _
    have hfirst := readAttr?_written hq ha rest
    rw [← hdrop] at hfirst
    rw [readAttrs?_of_attr hnone hfirst, ih hrest, Option.map_some]

theorem readTag?_written {name : Text} (hname : PlainName name) {attrs : Attrs}
    (hattrs : ∀ a ∈ attrs, PlainName a.1) {s : Text} (hs : ∀ c ∈ s.head?, endsName c = true)
    {tagEnd : Bool × Text} (hend : readTagEnd? (s.dropWhile Text.isBlank) = some tagEnd) :
    readTag? ('<' :: (name ++ (writeAttrs [q] attrs ++ s))) =
      some (if tagEnd.1 then .empty name attrs else .start name attrs, tagEnd.2) := by
  have hbehind : ∀ c ∈ (writeAttrs [q] attrs ++ s).head?, endsName c = true := by
    cases attrs with
    | nil => exact hs
    | cons a attrs =>
      rintro _ ⟨⟩
      decide
  obtain ⟨htake, hdrop⟩ := span_name hname hbehind
  rw [readTag?, htake, hdrop, readAttrs?_writeAttrs hq hattrs hend, Option.map_some]

variable {name : Text} (hname : PlainName name) {attrs : Attrs}
  (hattrs : ∀ a ∈ attrs, PlainName a.1)

include hname hattrs

theorem readTag?_start (rest : Text) :
    readTag? ((Token.start name attrs [q]).write ++ rest) = some (.start name attrs, rest) := by
  have hs : ∀ c ∈ ('>' :: rest).head?, endsName c = true := by
    rintro _ ⟨⟩
    decide
  have hread : readTag? ('<' :: (name ++ (writeAttrs [q] attrs ++ '>' :: rest))) =
      some (.start name attrs, rest) := readTag?_written hq hname hattrs hs rfl
  simpa [Token.write] using hread

theorem readTag?_empty (rest : Text) :
    readTag? ((Token.empty name attrs [q]).write ++ rest) = some (.empty name attrs, rest) := by
  have hs : ∀ c ∈ (' ' :: '/' :: '>' :: rest).head?, endsName c = true := by
    rintro _ ⟨⟩
    decide
  have hread : readTag? ('<' :: (name ++ (writeAttrs [q] attrs ++ ' ' :: '/' :: '>' :: rest))) =
      some (.empty name attrs, rest) := readTag?_written hq hname hattrs hs rfl
  simpa [Token.write] using hread

theorem readElement?_written (s : Text) :
    readElement? (write (element name s attrs [q])) = some ⟨name, attrs, s⟩ := by
  have hwrite : write (element name s attrs [q]) = (Token.start name attrs [q]).write ++
      (escape s ++ '<' :: ('/' :: name ++ ['>'])) := by
    simp [element, Token.write]
  have hcut : Text.cut? ['<'] (escape s ++ '<' :: ('/' :: name ++ ['>'])) =
      some (escape s, '/' :: name ++ ['>']) := Text.cut?_append_self (less_not_mem_escape s) _
  rw [hwrite, readElement?, readTag?_start hq hname hattrs]
  dsimp only
  rw [hcut, Option.bind_some, if_pos rfl, decode_escape]

end

/-- Names of word characters, full stops, hyphens and colons. -/
def Leaf.Plain (l : Leaf) : Prop := PlainName l.name ∧ ∀ a ∈ l.attrs, PlainName a.1

/-- What is written is read back, whatever the values and the text are and in quotes of either kind,
and so it determines the name, the attributes in their order and the text. -/
theorem tags_read_back {l l' : Leaf} (hl : l.Plain) (hl' : l'.Plain) {q q' : Char}
    (hq : q ∈ quotes) (hq' : q' ∈ quotes) :
    readElement? (write (element l.name l.text l.attrs [q])) = some l ∧
    (∀ rest, readTag? ((Token.start l.name l.attrs [q]).write ++ rest) =
      some (.start l.name l.attrs, rest)) ∧
    (∀ rest, readTag? ((Token.empty l.name l.attrs [q]).write ++ rest) =
      some (.empty l.name l.attrs, rest)) ∧
    (write (element l.name l.text l.attrs [q]) = write (element l'.name l'.text l'.attrs [q']) →
      l = l') ∧
    ((Token.start l.name l.attrs [q]).write = (Token.start l'.name l'.attrs [q']).write →
      l.name = l'.name ∧ l.attrs = l'.attrs) ∧
    ((Token.empty l.name l.attrs [q]).write = (Token.empty l'.name l'.attrs [q']).write →
      l.name = l'.name ∧ l.attrs = l'.attrs) := by
  have helement : readElement? (write (element l.name l.text l.attrs [q])) = some l :=
    readElement?_written hq hl.1 hl.2 l.text
  refine ⟨helement, readTag?_start hq hl.1 hl.2, readTag?_empty hq hl.1 hl.2, ?_, ?_, ?_⟩
  · intro h
    rw [h, readElement?_written hq' hl'.1 hl'.2 l'.text] at helement
    exact (Option.some.inj helement).symm
  · intro h
    have hread := readTag?_start hq hl.1 hl.2 []
    rw [h, readTag?_start hq' hl'.1 hl'.2 []] at hread
    obtain ⟨hname, hattrs⟩ := Event.start.inj (congrArg Prod.fst (Option.some.inj hread))
    exact ⟨hname.symm, hattrs.symm⟩
  · intro h
    have hread := readTag?_empty hq hl.1 hl.2 []
    rw [h, readTag?_empty hq' hl'.1 hl'.2 []] at hread
    obtain ⟨hname, hattrs⟩ := Event.empty.inj (congrArg Prod.fst (Option.some.inj hread))
    exact ⟨hname.symm, hattrs.symm⟩

def entityLike : Leaf where
  name := "x:see-1".toList
  attrs := [("k_1".toList, "\"&lt;'/>".toList), ("b".toList, [])]
  text := "&amp;lt; </x:see-1>".toList

/-- What looks like an entity is told from the sign that the entity stands for, in quotes of either
kind. -/
theorem tags_read_back_entityLike :
    let signs : Leaf := { entityLike with text := "&lt; </x:see-1>".toList }
    entityLike.Plain ∧ signs.Plain ∧ '"' ∈ quotes ∧ '\'' ∈ quotes ∧
    readElement? (write (element entityLike.name entityLike.text entityLike.attrs ['"'])) =
      some entityLike ∧
    readTag? "<x:see-1 k_1=\"&quot;&amp;lt;&apos;/&gt;\" b=\"\" /><c>".toList =
      some (.empty entityLike.name entityLike.attrs, "<c>".toList) ∧
    write (element entityLike.name entityLike.text entityLike.attrs ['"']) ≠
      write (element signs.name signs.text signs.attrs ['\'']) := by
  intro signs
  have hplain : entityLike.Plain := ⟨by decide, by decide⟩
  have hsigns : signs.Plain := hplain
  have hdouble : '"' ∈ quotes := by decide
  have hsingle : '\'' ∈ quotes := by decide
  obtain ⟨hread, -, hempty, hinj, -, -⟩ := tags_read_back hplain hsigns hdouble hsingle
  have htexts : entityLike ≠ signs := by decide
  exact ⟨hplain, hsigns, hdouble, hsingle, hread, hempty "<c>".toList, mt hinj htexts⟩

end BookIndex.Xml
