import BookIndex.Proofs.Xhtml.Nesting
import Mathlib.Data.List.DropRight

namespace BookIndex

namespace Xml

def Event.href? : Event → Option Text
  | .start name attrs => if name = "a".toList then attrs.lookup "href".toList else none
  | _ => none

def Event.textBehind (before : Text) : Event → Text
  | .char c => before ++ [c]
  | _ => []

def textAhead : List Event → Text
  | .char c :: es => c :: textAhead es
  | _ => []

theorem textAhead_append (s : Text) (es : List Event) :
    textAhead (s.map .char ++ es) = s ++ textAhead es := by
  induction s with
  | nil => rfl
  | cons c s ih => exact congrArg (c :: ·) ih

end Xml

namespace Xhtml

open Markup Xml

structure BackLink where
  mark : Text
  href : Text
  label : Text
  deriving DecidableEq, Repr

def backLinksFrom (before : Text) : List Event → List BackLink
  | [] => []
  | e :: es =>
    (e.href?.map fun href ↦ ⟨before.rtake 2, href, textAhead es⟩).toList ++
      backLinksFrom (e.textBehind before) es

def backLinks (es : List Event) : List BackLink := backLinksFrom [] es

section

variable {α : Type} (anchor : α → Text)

def backLink (n : ℕ) (position : α) : BackLink :=
  ⟨[if n = 1 then ':' else ',', ' '], '#' :: anchor position, Text.ofNat n⟩

/-- Links with numbers from `n` on. -/
def numbered (n : ℕ) (positions : List α) : List BackLink :=
  (positions.zipIdx n).map fun p ↦ backLink anchor p.2 p.1

end

theorem backLinksFrom_quiet {es : List Event} (h : ∀ e ∈ es, e.href? = none) (before : Text)
    (rest : List Event) :
    ∃ before', backLinksFrom before (es ++ rest) = backLinksFrom before' rest := by
  induction es generalizing before with
  | nil => exact ⟨before, rfl⟩
  | cons e es ih =>
    obtain ⟨before', hrest⟩ :=
      ih (fun d hd ↦ h d (List.mem_cons_of_mem e hd)) (e.textBehind before)
    refine ⟨before', ?_⟩
    rw [List.cons_append, backLinksFrom, h e List.mem_cons_self, hrest]
    rfl

theorem quiet_data (s : Text) : ∀ e ∈ s.map Event.char, e.href? = none := by
  intro e he
  obtain ⟨c, -, rfl⟩ := List.mem_map.1 he
  rfl

theorem Frame.quiet {t : Token} (h : Frame t) : ∀ e ∈ t.events, e.href? = none := by
  cases h with
  | data s => exact quiet_data s
  | list c => exact List.forall_mem_singleton.2 rfl
  | item c => exact List.forall_mem_singleton.2 rfl
  | endList => exact List.forall_mem_singleton.2 rfl
  | endItem => exact List.forall_mem_singleton.2 rfl

theorem quiet_events {ts : List Token} (h : ∀ t ∈ ts, Frame t) : ∀ e ∈ events ts, e.href? = none := by
  intro e he
  obtain ⟨t, ht, he⟩ := List.mem_flatMap.1 he
  exact (h t ht).quiet e he

variable {α : Type} (anchor : α → Text)

theorem backLinksFrom_char (before : Text) (c : Char) (es : List Event) :
    backLinksFrom before (.char c :: es) = backLinksFrom (before ++ [c]) es := rfl

theorem backLinksFrom_start (before href : Text) (es : List Event) :
    backLinksFrom before (.start "a".toList [("href".toList, href)] :: es) =
      ⟨before.rtake 2, href, textAhead es⟩ :: backLinksFrom [] es := rfl

theorem backLinksFrom_finish (before name : Text) (es : List Event) :
    backLinksFrom before (.finish name :: es) = backLinksFrom [] es := rfl

theorem backLinksFrom_link (before : Text) (n : ℕ) (position : α) (rest : List Event) :
    backLinksFrom before (events (link anchor n position) ++ rest) =
      backLink anchor n position :: backLinksFrom [] rest := by
  have hmark : ∀ m : Char, (before ++ [m] ++ [' ']).rtake 2 = [m, ' '] := by
    intro m
    rw [List.rtake_concat_succ, List.rtake_concat_succ, List.rtake_zero]
    rfl
  have hend : textAhead (.finish "a".toList :: rest) = [] := rfl
  obtain ⟨before', hlabel⟩ :=
    backLinksFrom_quiet (quiet_data (Text.ofNat n)) [] (.finish "a".toList :: rest)
  simp only [link, events_cons, events_nil, Token.events, List.map_cons, List.map_nil,
    List.cons_append, List.nil_append, List.append_assoc]
  rw [backLinksFrom_char, backLinksFrom_char, backLinksFrom_start, hmark, textAhead_append, hlabel,
    backLinksFrom_finish, backLink, hend, List.append_nil]

theorem numbered_cons (n : ℕ) (position : α) (positions : List α) :
    numbered anchor n (position :: positions) =
      backLink anchor n position :: numbered anchor (n + 1) positions := by
  rw [numbered, List.zipIdx_cons, List.map_cons]
  rfl

theorem backLinksFrom_links (before : Text) (n : ℕ) (positions : List α) (rest : List Event) :
    ∃ before', backLinksFrom before (events (links anchor n positions) ++ rest) =
      numbered anchor n positions ++ backLinksFrom before' rest := by
  induction positions generalizing before n with
  | nil => exact ⟨before, rfl⟩
  | cons position positions ih =>
    obtain ⟨before', hrest⟩ := ih [] (n + 1)
    refine ⟨before', ?_⟩
    rw [links, events_append, List.append_assoc, backLinksFrom_link, hrest, numbered_cons,
      List.cons_append]

theorem backLinksFrom_key {w : Walk} {i : Item α} {own : List (Item α)}
    (hnew : w.same Heading.sameAll i.key = false) (hown : ∀ j ∈ own, j.key.lower = i.key.lower)
    (others : List (Item α)) (before : Text) (rest : List Event) :
    ∃ h d n before', h.lower = i.key.lower ∧
      backLinksFrom before (events (w.run anchor (i :: own ++ others)) ++ rest) =
        numbered anchor 1 ((i :: own).map Item.position) ++
          backLinksFrom before' (events (Walk.run anchor ⟨d, some h, n⟩ others) ++ rest) := by
  obtain ⟨h, n, hh, hrun⟩ := run_new anchor hnew hown others
  let closing := w.close i.key
  let opening := w.openAt closing.2 i.key i.display
  have hframe : ∀ e ∈ events (closing.1 ++ opening.1), e.href? = none :=
    quiet_events (List.forall_mem_append.2 ⟨frame_close w i.key, frame_openAt w _ i.key i.display⟩)
  obtain ⟨b, hb⟩ := backLinksFrom_quiet hframe before
    (events (links anchor 1 ((i :: own).map Item.position)) ++
      (events (Walk.run anchor ⟨opening.2, some h, n⟩ others) ++ rest))
  obtain ⟨b', hb'⟩ := backLinksFrom_links anchor b 1 ((i :: own).map Item.position)
    (events (Walk.run anchor ⟨opening.2, some h, n⟩ others) ++ rest)
  refine ⟨h, opening.2, n, b', hh, ?_⟩
  rw [hrun, events_append, events_append, List.append_assoc, List.append_assoc, hb, hb']

theorem backLinksFrom_run (items : List (Item α)) {ks : List Heading} (hn : ks.Nodup)
    (hmem : ∀ v ∈ ks, ∃ i ∈ items, i.key.lower = v) {w : Walk}
    (hlast : ∀ h ∈ w.last, h.lower ∉ ks) (before : Text) {rest : List Event}
    (hrest : ∀ e ∈ rest, e.href? = none) :
    backLinksFrom before (events (w.run anchor (ks.flatMap fun v ↦ withKey v items)) ++ rest) =
      ks.flatMap fun v ↦ numbered anchor 1 ((withKey v items).map Item.position) := by
  -- The last key is none of those to come, so that each run starts with the number one.
  induction ks generalizing w before with
  | nil =>
    have hquiet : ∀ e ∈ events (closeAll w.depth) ++ rest, e.href? = none :=
      List.forall_mem_append.2 ⟨quiet_events (frame_closeAll w.depth), hrest⟩
    obtain ⟨before', h⟩ := backLinksFrom_quiet hquiet before []
    rw [List.append_nil] at h
    exact h
  | cons v ks ih =>
    rw [List.nodup_cons] at hn
    obtain ⟨i, own, hrun, hi, hown⟩ := exists_withKey_eq_cons (hmem v List.mem_cons_self)
    have hnew : w.same Heading.sameAll i.key = false := by
      cases hl : w.last with
      | none => simp [Walk.same, hl]
      | some h =>
        refine Bool.eq_false_iff.2 fun hs ↦ hlast h hl ?_
        rw [Walk.same, hl, Option.any_some, Heading.sameAll_iff, hi] at hs
        rw [← hs]
        exact List.mem_cons_self
    obtain ⟨h, d, n, before', hh, hlinks⟩ := backLinksFrom_key anchor hnew hown
      (ks.flatMap fun v ↦ withKey v items) before rest
    have hnext : ∀ k ∈ (⟨d, some h, n⟩ : Walk).last, k.lower ∉ ks := by
      intro k hk
      cases hk
      rw [hh, hi]
      exact hn.1
    rw [List.flatMap_cons, List.flatMap_cons, hrun, hlinks,
      ih hn.2 (fun u hu ↦ hmem u (List.mem_cons_of_mem v hu)) hnext before']

theorem quiet_indexHead (style : Style) : ∀ e ∈ events (indexHead style), e.href? = none := by
  intro e he
  obtain ⟨t, ht, he⟩ := List.mem_flatMap.1 he
  simp only [indexHead, List.mem_cons, List.not_mem_nil, or_false] at ht
  rcases ht with rfl | rfl | rfl | rfl | rfl | rfl | rfl | rfl
  · rw [List.mem_singleton.1 he]
    rfl
  · exact quiet_data _ e he
  · rw [List.mem_singleton.1 he, Event.href?]
    exact ite_self _
  · exact quiet_data _ e he
  · rw [List.mem_singleton.1 he]
    rfl
  · exact quiet_data _ e he
  · exact (Frame.list "main").quiet e he
  · exact quiet_data _ e he

theorem backLinks_indexTokens (style : Style) (items : List (Item α)) :
    backLinks (events (indexTokens anchor style items)) =
      (keys items).flatMap fun v ↦ numbered anchor 1 ((withKey v items).map Item.position) := by
  unfold indexTokens
  split
  · rename_i hnil
    rw [hnil, keys, sort_nil]
    rfl
  · have hend : ∀ e ∈ events indexEnd, e.href? = none :=
      List.forall_mem_cons.2 ⟨rfl, List.forall_mem_singleton.2 rfl⟩
    obtain ⟨before, hrest⟩ := backLinksFrom_quiet (quiet_indexHead style) []
      (events (Walk.initial.run anchor (sort items)) ++ events indexEnd)
    rw [backLinks, tokens_eq, events_append, events_append, List.append_assoc, hrest,
      sort_eq_flatMap_withKey]
    exact backLinksFrom_run anchor items (List.nodup_dedup _) (fun v hv ↦ mem_keys.1 hv)
      (fun h hl ↦ by cases hl) before hend

theorem hrefs_numbered (n : ℕ) (positions : List α) :
    (numbered anchor n positions).map BackLink.href = positions.map fun p ↦ '#' :: anchor p := by
  induction positions generalizing n with
  | nil => rfl
  | cons position positions ih => rw [numbered_cons, List.map_cons, List.map_cons, ih]; rfl

theorem hrefs_indexTokens (style : Style) (items : List (Item α)) :
    (backLinks (events (indexTokens anchor style items))).map BackLink.href =
      (sort items).map fun i ↦ '#' :: anchor i.position := by
  rw [backLinks_indexTokens, List.map_flatMap, sort_eq_flatMap_withKey, List.map_flatMap]
  refine List.flatMap_congr fun v _ ↦ ?_
  rw [hrefs_numbered, List.map_map]
  rfl

/-- The main index holds one link for each row, in the order of the sorted items. The links of each
key are neighbours and counted from one, in the order of the rows. -/
theorem backLinks_render {o : Options} (hs : o.separator ≠ []) (rows : List (Row α)) :
    ∃ items found, collect o.separator o.escape rows = .ok items ∧
      items.map Item.position = rows.map Row.position ∧
      render anchor o (some mainIndex) rows = .ok (write (indexTokens anchor o.style items)) ∧
      (PlainName o.style.headingTag → read (write (indexTokens anchor o.style items)) =
        some (events (indexTokens anchor o.style items))) ∧
      backLinks (events (indexTokens anchor o.style items)) = found ∧
      found.length = rows.length ∧
      found.map BackLink.href = (sort items).map (fun i ↦ '#' :: anchor i.position) ∧
      ∃ ks : List Heading, ks.Pairwise (·.order < ·.order) ∧
        (∀ v, v ∈ ks ↔ ∃ i ∈ items, i.key.lower = v) ∧
        sort items = ks.flatMap (fun v ↦ withKey v items) ∧
        found = ks.flatMap fun v ↦ numbered anchor 1 ((withKey v items).map Item.position) := by
  obtain ⟨items, hitems, hpositions, hrender⟩ := exists_render anchor hs rows
  have hrefs := hrefs_indexTokens anchor o.style items
  have hlength : (backLinks (events (indexTokens anchor o.style items))).length = rows.length := by
    have hl := congrArg List.length hrefs
    have hp := congrArg List.length hpositions
    rw [List.length_map, List.length_map, (sort_perm items).length_eq] at hl
    rw [List.length_map, List.length_map] at hp
    exact hl.trans hp
  exact ⟨items, _, hitems, hpositions, hrender, fun h ↦ read_indexTokens anchor h items, rfl,
    hlength, hrefs, keys items, pairwise_keys items, fun v ↦ mem_keys,
    sort_eq_flatMap_withKey items, backLinks_indexTokens anchor o.style items⟩

/-- Keys that differ in case, among them some with other levels shown than sorted. -/
def repeatedRows : List (Row Text) :=
  [⟨"apple".toList, [], "p1".toList⟩, ⟨"Banana ! x@".toList, [], "p2".toList⟩,
    ⟨"APPLE|textbf".toList, "apple ! y".toList, "p3".toList⟩,
    ⟨"banana ! X@".toList, [], "p4".toList⟩, ⟨"Apple".toList, [], "p5".toList⟩]

theorem backLinks_render_repeated : unalignedOptions.separator ≠ [] ∧
    ∃ items found,
      collect unalignedOptions.separator unalignedOptions.escape repeatedRows = .ok items ∧
      items.map Item.position = repeatedRows.map Row.position ∧
      render id unalignedOptions (some mainIndex) repeatedRows =
        .ok (write (indexTokens id unalignedOptions.style items)) ∧
      (PlainName unalignedOptions.style.headingTag →
        read (write (indexTokens id unalignedOptions.style items)) =
          some (events (indexTokens id unalignedOptions.style items))) ∧
      backLinks (events (indexTokens id unalignedOptions.style items)) = found ∧
      found.length = repeatedRows.length ∧
      found.map BackLink.href = (sort items).map (fun i ↦ '#' :: id i.position) ∧
      ∃ ks : List Heading, ks.Pairwise (·.order < ·.order) ∧
        (∀ v, v ∈ ks ↔ ∃ i ∈ items, i.key.lower = v) ∧
        sort items = ks.flatMap (fun v ↦ withKey v items) ∧
        found = ks.flatMap fun v ↦ numbered id 1 ((withKey v items).map Item.position) :=
  ⟨by decide, backLinks_render id (by decide) repeatedRows⟩

end Xhtml
end BookIndex
