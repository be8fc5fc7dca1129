import BookIndex.DocBook.IndexTerm
import BookIndex.Proofs.Xml.Leaf
import Mathlib.Data.List.Basic

namespace BookIndex.DocBook

open Xml (Event Leaf)

namespace Reference

def leaves : Reference → List Leaf
  | none => []
  | see target => [⟨"see".toList, [], target⟩]
  | seeAlso targets => targets.map (Leaf.mk "seealso".toList [])

def ofLeaves? (ls : List Leaf) : Option Reference :=
  match Leaf.take "see".toList ls with
  | (some target, rest) => if rest = [] then some (see target) else Option.none
  | (Option.none, rest) =>
    (Leaf.texts? "seealso".toList rest).map fun
      | [] => none
      | targets => seeAlso targets

theorem leaves_of_ofLeaves? {ls : List Leaf} {ref : Reference} (h : ofLeaves? ls = some ref) :
    ls = ref.leaves ∧ ref ≠ seeAlso [] := by
  have happend := Leaf.take_append "see".toList ls
  unfold ofLeaves? at h
  split at h
  · rename_i target rest htake
    rw [htake] at happend
    split at h
    · rename_i hrest
      cases h
      rw [hrest] at happend
      exact ⟨happend.symm, nofun⟩
    · cases h
  · rename_i rest htake
    rw [htake] at happend
    obtain ⟨targets, htexts, href⟩ := Option.map_eq_some_iff.1 h
    rw [Leaf.texts?_eq_some_iff.1 htexts] at happend
    subst href
    cases targets with
    | nil => exact ⟨happend.symm, nofun⟩
    | cons target targets => exact ⟨happend.symm, nofun⟩

theorem name_ne_of_mem_leaves {name : Text} (hsee : "see".toList ≠ name)
    (halso : "seealso".toList ≠ name) {ref : Reference} : ∀ l ∈ ref.leaves, l.name ≠ name := by
  cases ref with
  | none => exact nofun
  | see target => exact List.forall_mem_singleton.2 hsee
  | seeAlso targets => exact List.forall_mem_map.2 fun _ _ ↦ halso

theorem ofLeaves?_leaves {ref : Reference} (h : ref ≠ seeAlso []) :
    ofLeaves? ref.leaves = some ref := by
  cases ref with
  | none => rfl
  | see target => rfl
  | seeAlso targets =>
    obtain ⟨target, targets, rfl⟩ := List.exists_cons_of_ne_nil fun he ↦ h (he ▸ rfl)
    have hnames : ∀ l ∈ (seeAlso (target :: targets)).leaves, l.name ≠ "see".toList :=
      List.forall_mem_map.2 fun _ _ ↦ (by decide : "seealso".toList ≠ "see".toList)
    have htexts : Leaf.texts? "seealso".toList (seeAlso (target :: targets)).leaves =
        some (target :: targets) := Leaf.texts?_eq_some_iff.2 rfl
    have htake := Leaf.take_of_append Option.none hnames
    rw [Option.toList_none, List.map_nil, List.nil_append] at htake
    rw [ofLeaves?, htake]
    simp only [htexts]
    rfl

end Reference

/-- What is read from the element of a term. -/
structure Reading where
  type : Option Text
  rangeId : Option Text
  sortAs : Option Text
  primary : Text
  secondary : Option Text
  tertiary : Option Text
  reference : Reference
  deriving DecidableEq

namespace Reading

def rangeAttrs (rangeId : Option Text) : Xml.Attrs :=
  rangeId.toList.flatMap fun id ↦
    [("class".toList, "startofrange".toList), ("xml:id".toList, id)]

def rangeId? : Xml.Attrs → Option (Option Text)
  | [] => some none
  | [(k, v), (k', id)] =>
    if k = "class".toList ∧ v = "startofrange".toList ∧ k' = "xml:id".toList then some (some id)
    else none
  | _ => none

def type? : Xml.Attrs → Option Text × Xml.Attrs
  | [] => (none, [])
  | a :: attrs => if a.1 = "type".toList then (some a.2, attrs) else (none, a :: attrs)

def sortAs? : Xml.Attrs → Option (Option Text)
  | [] => some none
  | [(k, v)] => if k = "sortas".toList then some (some v) else none
  | _ => none

def attrs (r : Reading) : Xml.Attrs :=
  r.type.toList.map ("type".toList, ·) ++ rangeAttrs r.rangeId

def leaves (r : Reading) : List Leaf :=
  ⟨"primary".toList, r.sortAs.toList.map ("sortas".toList, ·), r.primary⟩ ::
    (r.secondary.toList.map (Leaf.mk "secondary".toList []) ++
      (r.tertiary.toList.map (Leaf.mk "tertiary".toList []) ++ r.reference.leaves))

/-- An `indexterm` with its leaves and nothing else. -/
def events (r : Reading) : List Event :=
  .start "indexterm".toList r.attrs :: (r.leaves.flatMap Leaf.events ++
    [.finish "indexterm".toList])

def primary? (l : Leaf) : Option (Option Text × Text) :=
  if l.name = "primary".toList then (sortAs? l.attrs).map (·, l.text) else none

def ofLeaves? (attrs : Xml.Attrs) : List Leaf → Option Reading
  | [] => none
  | l :: ls =>
    let second := Leaf.take "secondary".toList ls
    let third := Leaf.take "tertiary".toList second.2
    (rangeId? (type? attrs).2).bind fun rangeId ↦ (primary? l).bind fun first ↦
      (Reference.ofLeaves? third.2).map
        (Reading.mk (type? attrs).1 rangeId first.1 first.2 second.1 third.1)

def ofEvents? : List Event → Option Reading
  | .start name attrs :: es =>
    if name = "indexterm".toList ∧ es.getLast? = some (.finish "indexterm".toList) then
      (Leaf.split? none es.dropLast).bind (ofLeaves? attrs)
    else none
  | _ => none

theorem rangeId?_eq_some_iff {attrs : Xml.Attrs} {rangeId : Option Text} :
    rangeId? attrs = some rangeId ↔ attrs = rangeAttrs rangeId := by
  constructor
  · intro h
    unfold rangeId? at h
    split at h
    · cases h
      rfl
    · split at h
      · rename_i k v k' id hk
        cases h
        rw [hk.1, hk.2.1, hk.2.2]
        rfl
      · cases h
    · cases h
  · rintro rfl
    cases rangeId with
    | none => rfl
    | some id => rfl

theorem sortAs?_eq_some_iff {attrs : Xml.Attrs} {sortAs : Option Text} :
    sortAs? attrs = some sortAs ↔ attrs = sortAs.toList.map ("sortas".toList, ·) := by
  constructor
  · intro h
    unfold sortAs? at h
    split at h
    · cases h
      rfl
    · split at h
      · rename_i k v hk
        cases h
        rw [hk]
        rfl
      · cases h
    · cases h
  · rintro rfl
    cases sortAs with
    | none => rfl
    | some key => rfl

theorem type?_append (attrs : Xml.Attrs) :
    (type? attrs).1.toList.map ("type".toList, ·) ++ (type? attrs).2 = attrs := by
  cases attrs with
  | nil => rfl
  | cons a attrs =>
    rw [type?]
    split
    · rename_i ha
      rw [← ha]
      rfl
    · rfl

theorem type?_attrs (r : Reading) : type? r.attrs = (r.type, rangeAttrs r.rangeId) := by
  unfold attrs
  cases r.type with
  | some type => rfl
  | none =>
    cases r.rangeId with
    | none => rfl
    | some id => rfl

theorem primary?_eq_some_iff {l : Leaf} {sortAs : Option Text} {s : Text} :
    primary? l = some (sortAs, s) ↔
      l = ⟨"primary".toList, sortAs.toList.map ("sortas".toList, ·), s⟩ := by
  rcases l with ⟨name, attrs, text⟩
  simp only [primary?, Leaf.mk.injEq, ← sortAs?_eq_some_iff]
  by_cases hname : name = "primary".toList
  · rw [if_pos hname, Option.map_eq_some_iff]
    constructor
    · rintro ⟨key, hkey, hpair⟩
      cases hpair
      exact ⟨hname, hkey, rfl⟩
    · rintro ⟨-, hkey, rfl⟩
      exact ⟨sortAs, hkey, rfl⟩
  · rw [if_neg hname]
    exact iff_of_false nofun fun h ↦ hname h.1

theorem ofLeaves?_eq_some_iff {attrs : Xml.Attrs} {ls : List Leaf} {r : Reading} :
    ofLeaves? attrs ls = some r ↔
      attrs = r.attrs ∧ ls = r.leaves ∧ r.reference ≠ .seeAlso [] := by
  constructor
  · intro h
    cases ls with
    | nil => cases h
    | cons l ls =>
      obtain ⟨rangeId, hrange, h⟩ := Option.bind_eq_some_iff.1 h
      obtain ⟨⟨sortAs, s⟩, hprimary, h⟩ := Option.bind_eq_some_iff.1 h
      obtain ⟨reference, href, rfl⟩ := Option.map_eq_some_iff.1 h
      obtain ⟨hleaves, hne⟩ := Reference.leaves_of_ofLeaves? href
      refine ⟨?_, ?_, hne⟩
      · rw [Reading.attrs, ← rangeId?_eq_some_iff.1 hrange, type?_append]
      · rw [leaves, ← primary?_eq_some_iff.1 hprimary, ← hleaves, Leaf.take_append,
          Leaf.take_append]
  · rintro ⟨rfl, rfl, h⟩
    have href : ∀ l ∈ r.reference.leaves, l.name ≠ "tertiary".toList :=
      Reference.name_ne_of_mem_leaves (by decide) (by decide)
    have href' : ∀ l ∈ r.reference.leaves, l.name ≠ "secondary".toList :=
      Reference.name_ne_of_mem_leaves (by decide) (by decide)
    have hlevel : ∀ l ∈ r.tertiary.toList.map (Leaf.mk "tertiary".toList []),
        l.name ≠ "secondary".toList :=
      List.forall_mem_map.2 fun _ _ ↦ (by decide : "tertiary".toList ≠ "secondary".toList)
    have hthird := Leaf.take_of_append r.tertiary href
    have hsecond := Leaf.take_of_append r.secondary (List.forall_mem_append.2 ⟨hlevel, href'⟩)
    have hrange : rangeId? (rangeAttrs r.rangeId) = some r.rangeId := rangeId?_eq_some_iff.2 rfl
    have hprimary : primary? ⟨"primary".toList, r.sortAs.toList.map ("sortas".toList, ·),
        r.primary⟩ = some (r.sortAs, r.primary) := primary?_eq_some_iff.2 rfl
    rw [leaves, ofLeaves?, type?_attrs, hsecond, hrange, Option.bind_some, hprimary,
      Option.bind_some, hthird, Reference.ofLeaves?_leaves h]
    rfl

theorem ofEvents?_eq_some_iff {es : List Event} {r : Reading} :
    ofEvents? es = some r ↔ es = r.events ∧ r.reference ≠ .seeAlso [] := by
  constructor
  · intro h
    unfold ofEvents? at h
    split at h
    · rename_i name attrs es
      split at h
      · rename_i hes
        obtain ⟨ls, hls, hr⟩ := Option.bind_eq_some_iff.1 h
        obtain ⟨hattrs, hleaves, hne⟩ := ofLeaves?_eq_some_iff.1 hr
        have hsplit := Leaf.split?_eq_some_iff.1 hls
        refine ⟨?_, hne⟩
        rw [events, ← hattrs, ← hleaves, ← hsplit, hes.1,
          List.dropLast_append_getLast? _ hes.2]
      · cases h
    · cases h
  · rintro ⟨rfl, h⟩
    have hlast : (r.leaves.flatMap Leaf.events ++ [Event.finish "indexterm".toList]).getLast? =
        some (.finish "indexterm".toList) := List.getLast?_concat
    rw [events, ofEvents?, if_pos ⟨rfl, hlast⟩, List.dropLast_concat, Leaf.split?_flatMap]
    exact ofLeaves?_eq_some_iff.2 ⟨rfl, rfl, h⟩

end Reading

end BookIndex.DocBook
