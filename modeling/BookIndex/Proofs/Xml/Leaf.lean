import BookIndex.Proofs.Xml.Reading

namespace BookIndex.Xml

/-- An element with text in it and no other element. -/
structure Leaf where
  name : Text
  attrs : Attrs
  text : Text
  deriving DecidableEq

namespace Leaf

def opening (l : Leaf) : List Event := .start l.name l.attrs :: l.text.map .char

def events (l : Leaf) : List Event := l.opening ++ [.finish l.name]

def split? : Option Leaf → List Event → Option (List Leaf)
  | none, [] => some []
  | none, .start name attrs :: es => split? (some ⟨name, attrs, []⟩) es
  | some l, .char c :: es => split? (some ⟨l.name, l.attrs, l.text ++ [c]⟩) es
  | some l, .finish name :: es => if name = l.name then (split? none es).map (l :: ·) else none
  | _, _ => none

theorem split?_open (l : Leaf) (s : Text) (es : List Event) :
    split? (some l) (s.map .char ++ .finish l.name :: es) =
      (split? none es).map (⟨l.name, l.attrs, l.text ++ s⟩ :: ·) := by
  induction s generalizing l with
  | nil =>
    rw [List.append_nil]
    exact if_pos rfl
  | cons c s ih =>
    have hs := ih ⟨l.name, l.attrs, l.text ++ [c]⟩
    rwa [List.append_assoc] at hs

theorem split?_flatMap (ls : List Leaf) : split? none (ls.flatMap events) = some ls := by
  induction ls with
  | nil => rfl
  | cons l ls ih =>
    have hl := split?_open ⟨l.name, l.attrs, []⟩ l.text (ls.flatMap events)
    rw [ih] at hl
    rw [List.flatMap_cons, events, opening, List.append_assoc]
    exact hl

theorem of_split? {l? : Option Leaf} {es : List Event} {ls : List Leaf}
    (h : split? l? es = some ls) : l?.elim [] opening ++ es = ls.flatMap events := by
  induction es generalizing l? ls with
  | nil =>
    cases l? with
    | none =>
      cases h
      rfl
    | some l => cases h
  | cons e es ih =>
    cases l? with
    | none =>
      cases e with
      | start name attrs => exact ih h
      | finish name => cases h
      | empty name attrs => cases h
      | char c => cases h
    | some l =>
      cases e with
      | start name attrs => cases h
      | empty name attrs => cases h
      | char c =>
        have hs : opening ⟨l.name, l.attrs, l.text ++ [c]⟩ ++ es = _ := ih h
        rw [← hs]
        simp [opening]
      | finish name =>
        rw [split?] at h
        split at h
        · rename_i hn
          obtain ⟨rest, hrest, rfl⟩ := Option.map_eq_some_iff.1 h
          have hs := ih hrest
          rw [List.flatMap_cons, ← hs, events, hn]
          simp
        · cases h

theorem split?_eq_some_iff {es : List Event} {ls : List Leaf} :
    split? none es = some ls ↔ es = ls.flatMap events := by
  constructor
  · exact fun h ↦ of_split? h
  · rintro rfl
    exact split?_flatMap ls

/-- Takes the text of a leaf with a name and no attributes off the front. -/
def take (name : Text) : List Leaf → Option Text × List Leaf
  | [] => (none, [])
  | l :: ls => if l.name = name ∧ l.attrs = [] then (some l.text, ls) else (none, l :: ls)

def texts? (name : Text) : List Leaf → Option (List Text)
  | [] => some []
  | l :: ls =>
    if l.name = name ∧ l.attrs = [] then (texts? name ls).map (l.text :: ·) else none

theorem eq_mk {l : Leaf} {name : Text} (h : l.name = name ∧ l.attrs = []) :
    l = ⟨name, [], l.text⟩ := by
  obtain ⟨hname, hattrs⟩ := h
  rw [← hname, ← hattrs]

theorem take_append (name : Text) (ls : List Leaf) :
    (take name ls).1.toList.map (Leaf.mk name []) ++ (take name ls).2 = ls := by
  cases ls with
  | nil => rfl
  | cons l ls =>
    rw [take]
    split
    · rename_i h
      rw [eq_mk h]
      rfl
    · rfl

theorem take_of_append {name : Text} (s? : Option Text) {ls : List Leaf}
    (h : ∀ l ∈ ls, l.name ≠ name) :
    take name (s?.toList.map (Leaf.mk name []) ++ ls) = (s?, ls) := by
  cases s? with
  | some s => exact if_pos ⟨rfl, rfl⟩
  | none =>
    cases ls with
    | nil => rfl
    | cons l ls => exact if_neg fun hl ↦ h l List.mem_cons_self hl.1

theorem texts?_eq_some_iff {name : Text} {ls : List Leaf} {ss : List Text} :
    texts? name ls = some ss ↔ ls = ss.map (Leaf.mk name []) := by
  induction ls generalizing ss with
  | nil =>
    rw [texts?, Option.some_inj, eq_comm, eq_comm (a := []), List.map_eq_nil_iff]
  | cons l ls ih =>
    rw [texts?]
    constructor
    · intro h
      split at h
      · rename_i hl
        obtain ⟨ss, hss, rfl⟩ := Option.map_eq_some_iff.1 h
        rw [List.map_cons, ← ih.1 hss, ← eq_mk hl]
      · cases h
    · intro h
      cases ss with
      | nil => cases h
      | cons s ss =>
        obtain ⟨rfl, hls⟩ := List.cons.inj h
        rw [if_pos ⟨rfl, rfl⟩, ih.2 hls]
        rfl

end Leaf

end BookIndex.Xml
