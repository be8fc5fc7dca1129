import BookIndex.Proofs.Markup.Blanks

namespace BookIndex.Markup

theorem pieces_nil_eq_splitOn (d : Char) (s : Text) : pieces (· == d) [] s = s.splitOn d := by
  have key (prev : Option Char) (s : Text) :
      (piecesFrom (· == d) [] prev s).1 :: (piecesFrom (· == d) [] prev s).2 = s.splitOn d := by
    induction s generalizing prev with
    | nil => rfl
    | cons c s ih =>
      rw [List.splitOn_cons_eq_if_modifyHead, ← ih (some c), piecesFrom]
      cases hc : c == d with
      | true => simp
      | false => simp
  exact key none s

namespace Command

def bare : Command → Command
  | none => none
  | format _ => format []
  | see target more _ => see target more []
  | seeAlso targets _ => seeAlso targets []
  | rangeStart _ => rangeStart []
  | rangeEnd _ => rangeEnd []

@[simp] theorem kind_bare (c : Command) : c.bare.kind = c.kind := by cases c <;> rfl

@[simp] theorem targets_bare (c : Command) : c.bare.targets = c.targets := by cases c <;> rfl

@[simp] theorem hasMoreTargets_bare (c : Command) : c.bare.hasMoreTargets = c.hasMoreTargets := by
  cases c <;> rfl

def hasMarker (marker : Char) (s : Text) : Bool :=
  s.head? == some marker || Text.occurs ['|', marker] s

theorem dropMarker_of_hasMarker {marker : Char} {s : Text} (h : hasMarker marker s = true) :
    (dropMarker marker s).1 = true := by
  rw [hasMarker] at h
  rw [dropMarker, if_pos h]

theorem dropMarker_of_not_hasMarker {marker : Char} {s : Text} (h : hasMarker marker s = false) :
    dropMarker marker s = (false, s) := by
  rw [hasMarker] at h
  rw [dropMarker, if_neg (Bool.eq_false_iff.1 h)]

theorem map_bare_range? (s : Text) : (range? s).map bare =
    if hasMarker '(' s then some (rangeStart [])
    else if hasMarker ')' s then some (rangeEnd []) else Option.none := by
  simp only [range?]
  cases hopen : hasMarker '(' s with
  | true =>
    simp only [dropMarker_of_hasMarker hopen]
    rfl
  | false =>
    simp only [dropMarker_of_not_hasMarker hopen]
    cases hclose : hasMarker ')' s with
    | true =>
      simp only [dropMarker_of_hasMarker hclose]
      rfl
    | false =>
      simp only [dropMarker_of_not_hasMarker hclose]
      rfl

theorem bare_ofText (s : Text) : (ofText s).bare =
    ((range? s).map bare).getD (((reference? s).map bare).getD
      (if s.allBlank then none else format [])) := by
  unfold ofText
  cases range? s with
  | some range => rfl
  | none =>
    cases reference? s with
    | some reference => rfl
    | none =>
      cases s.allBlank with
      | true => rfl
      | false => rfl

section

variable {b : Text} (hb : ∀ c ∈ b, Text.isBlank c = true)

include hb

theorem disjoint_of_blanks {pat : Text} (hpat : pat.all (!Text.isBlank ·) = true) :
    ∀ c ∈ b, c ∉ pat := by
  intro c hc hmem
  have hblank := List.all_eq_true.1 hpat c hmem
  rw [hb c hc] at hblank
  cases hblank

theorem hasMarker_append_blanks {marker : Char} (hmarker : Text.isBlank marker = false)
    (s : Text) : hasMarker marker (s ++ b) = hasMarker marker s := by
  have hpat : ['|', marker].all (!Text.isBlank ·) = true := by
    rw [List.all_cons, List.all_cons, hmarker]
    decide
  have hhead : ((s ++ b).head? == some marker) = (s.head? == some marker) := by
    cases s with
    | cons c s => rfl
    | nil =>
      cases b with
      | nil => rfl
      | cons d b =>
        have hd := hb d List.mem_cons_self
        refine beq_eq_false_iff_ne.2 fun h ↦ ?_
        cases h
        rw [hmarker] at hd
        cases hd
  rw [hasMarker, hasMarker, hhead,
    Text.occurs_append (disjoint_of_blanks hb hpat) (List.cons_ne_nil _ _)]

theorem unescapeBraces_append_blanks (s : Text) :
    unescapeBraces (s ++ b) = unescapeBraces s ++ b := by
  have hopen : ['\\', '{'].all (!Text.isBlank ·) = true := by decide
  have hclose : ['\\', '}'].all (!Text.isBlank ·) = true := by decide
  rw [unescapeBraces, Text.replace_append_disjoint (disjoint_of_blanks hb hopen) (by simp),
    Text.replace_append_disjoint (disjoint_of_blanks hb hclose) (by simp)]
  rfl

theorem targetsOf_append_blanks (s : Text) : targetsOf (s ++ b) = targetsOf s := by
  have hsep : ∀ c, Text.isBlank c = true → (c == ',') = false := by
    intro c hc
    refine beq_eq_false_iff_ne.2 ?_
    rintro rfl
    cases hc
  have hsplit : split (· == ',') [] (s ++ b) = split (· == ',') [] s :=
    split_append_blanks hsep hb s
  rw [split, split, pieces_nil_eq_splitOn, pieces_nil_eq_splitOn] at hsplit
  rw [targetsOf, targetsOf, hsplit]

theorem targetsOf_body_append_blanks (s : Text) :
    targetsOf (body (s ++ b)).1 = targetsOf (body s).1 := by
  have hbrace : ['}'].all (!Text.isBlank ·) = true := by decide
  rw [body, body, Text.cut?_append_disjoint (disjoint_of_blanks hb hbrace) (by simp)]
  cases Text.cut? ['}'] s with
  | some r => rfl
  | none => exact targetsOf_append_blanks hb s

theorem map_bare_reference?_append_blanks (s : Text) :
    (reference? (s ++ b)).map bare = (reference? s).map bare := by
  have hseeAlso : "seealso\x7b".toList.all (!Text.isBlank ·) = true := by decide
  have hsee : "see\x7b".toList.all (!Text.isBlank ·) = true := by decide
  simp only [reference?, unescapeBraces_append_blanks hb,
    Text.isPrefixOf?_append (disjoint_of_blanks hb hseeAlso),
    Text.isPrefixOf?_append (disjoint_of_blanks hb hsee)]
  cases "seealso\x7b".toList.isPrefixOf? (unescapeBraces s) with
  | some rest =>
    simp only [Option.map_some, targetsOf_body_append_blanks hb]
    cases targetsOf (body rest).1 with
    | nil => rfl
    | cons target targets => rfl
  | none =>
    simp only [Option.map_none]
    cases "see\x7b".toList.isPrefixOf? (unescapeBraces s) with
    | none => rfl
    | some rest =>
      simp only [Option.map_some, targetsOf_body_append_blanks hb]
      cases targetsOf (body rest).1 with
      | nil => rfl
      | cons target targets => rfl

theorem bare_ofText_append_blanks (s : Text) : (ofText (s ++ b)).bare = (ofText s).bare := by
  have hopen : Text.isBlank '(' = false := by decide
  have hclose : Text.isBlank ')' = false := by decide
  rw [bare_ofText, bare_ofText, map_bare_range?, map_bare_range?,
    hasMarker_append_blanks hb hopen, hasMarker_append_blanks hb hclose,
    map_bare_reference?_append_blanks hb, Text.allBlank_append_blanks hb]

end

end Command
end BookIndex.Markup
