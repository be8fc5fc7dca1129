import BookIndex.Proofs.Xhtml.BackLinks

namespace BookIndex

namespace Markup.Heading

/-- The last level that is not empty. -/
def deepest (h : Heading) : Text :=
  if h.subsub.isEmpty then if h.sub.isEmpty then h.main else h.sub else h.subsub

end Markup.Heading

namespace Xml

def tagAhead : List Event → Option Event
  | .char _ :: es => tagAhead es
  | es => es.head?

def itemLabel (es : List Event) : Text :=
  (textAhead es).rdrop (if (tagAhead es).any (·.href?.isSome) then 2 else 1)

def Event.openLabels (labels : List Text) (ahead : List Event) : Event → List Text
  | .start name _ => if name = "li".toList then itemLabel ahead :: labels else labels
  | .finish name => if name = "li".toList then labels.tail else labels
  | _ => labels

end Xml

namespace Xhtml

open Markup Xml

structure TermLink where
  label : Text
  href : Text
  deriving DecidableEq, Repr

def termLinksFrom (labels : List Text) : List Event → List TermLink
  | [] => []
  | e :: es =>
    (e.href?.map fun href ↦ ⟨labels.headD [], href⟩).toList ++
      termLinksFrom (e.openLabels labels es) es

def termLinks (es : List Event) : List TermLink := termLinksFrom [] es

/-- An item that shows each level by which it is sorted behind another one, and no level below an
empty one. -/
structure Item.ShowsKey {α : Type} (items : List (Item α)) (i : Item α) : Prop where
  sub : (∃ j ∈ items, i.le j = false ∧ i.key.sameMain j.key = true) →
    i.key.sub ≠ [] → i.display.sub ≠ []
  subsub : (∃ j ∈ items, i.le j = false ∧ i.key.sameSub j.key = true) →
    i.key.subsub ≠ [] → i.display.subsub ≠ []
  nested : i.display.subsub ≠ [] → i.display.sub ≠ []

instance {α : Type} (items : List (Item α)) (i : Item α) : Decidable (i.ShowsKey items) :=
  decidable_of_iff (((∃ j ∈ items, i.le j = false ∧ i.key.sameMain j.key = true) →
        i.key.sub ≠ [] → i.display.sub ≠ []) ∧
      ((∃ j ∈ items, i.le j = false ∧ i.key.sameSub j.key = true) →
        i.key.subsub ≠ [] → i.display.subsub ≠ []) ∧
      (i.display.subsub ≠ [] → i.display.sub ≠ []))
    ⟨fun h ↦ ⟨h.1, h.2.1, h.2.2⟩, fun h ↦ ⟨h.sub, h.subsub, h.nested⟩⟩

theorem termLinksFrom_data (labels : List Text) (s : Text) (rest : List Event) :
    termLinksFrom labels (s.map .char ++ rest) = termLinksFrom labels rest := by
  induction s with
  | nil => rfl
  | cons c s ih => exact ih

theorem termLinksFrom_closing {ts : List Token}
    (h : ∀ t ∈ ts, t = endItem ∨ t = endList ∨ t = newline) (labels : List Text) : ∃ labels', ∀ rest,
      termLinksFrom labels (events ts ++ rest) = termLinksFrom labels' rest := by
  induction ts generalizing labels with
  | nil => exact ⟨labels, fun rest ↦ rfl⟩
  | cons t ts ih =>
    obtain ⟨ht, hts⟩ := List.forall_mem_cons.1 h
    obtain ⟨labels₁, h₁⟩ : ∃ labels₁, ∀ rest,
        termLinksFrom labels (t.events ++ rest) = termLinksFrom labels₁ rest := by
      rcases ht with rfl | rfl | rfl
      · exact ⟨labels.tail, fun rest ↦ rfl⟩
      · exact ⟨labels, fun rest ↦ rfl⟩
      · exact ⟨labels, fun rest ↦ rfl⟩
    obtain ⟨labels₂, h₂⟩ := ih hts labels₁
    refine ⟨labels₂, fun rest ↦ ?_⟩
    rw [events_cons, List.append_assoc, h₁, h₂]

/-- What can stand behind the label of a list item: the label ends there. -/
def EndsLabel (rest : List Event) : Prop :=
  ∀ label : Text, itemLabel (label.map .char ++ rest) = label

theorem tagAhead_append (s : Text) (es : List Event) :
    tagAhead (s.map .char ++ es) = tagAhead es := by
  induction s with
  | nil => rfl
  | cons c s ih => exact ih

theorem endsLabel_list (cssClass : String) (ts : List Token) (rest : List Event) :
    EndsLabel (events (newline :: list cssClass :: ts) ++ rest) := by
  intro label
  have htext : textAhead (events (newline :: list cssClass :: ts) ++ rest) = ['\n'] := rfl
  have htag : (tagAhead (events (newline :: list cssClass :: ts) ++ rest)).any
      (·.href?.isSome) = false := rfl
  rw [itemLabel, textAhead_append, tagAhead_append, htext, htag]
  rw [if_neg Bool.false_ne_true, List.rdrop_concat_succ, List.rdrop_zero]

variable {α : Type} (anchor : α → Text)

theorem endsLabel_links (n : ℕ) (position : α) (positions : List α) (rest : List Event) :
    EndsLabel (events (links anchor n (position :: positions)) ++ rest) := by
  intro label
  have htext : textAhead (events (links anchor n (position :: positions)) ++ rest) =
      [if n = 1 then ':' else ','] ++ [' '] := rfl
  have htag : (tagAhead (events (links anchor n (position :: positions)) ++ rest)).any
      (·.href?.isSome) = true := rfl
  rw [itemLabel, textAhead_append, tagAhead_append, htext, htag, ← List.append_assoc]
  rw [if_pos rfl, List.rdrop_concat_succ, List.rdrop_concat_succ, List.rdrop_zero]

theorem termLinksFrom_links (labels : List Text) (n : ℕ) (positions : List α) (rest : List Event) :
    termLinksFrom labels (events (links anchor n positions) ++ rest) =
      positions.map (fun p ↦ ⟨labels.headD [], '#' :: anchor p⟩) ++ termLinksFrom labels rest := by
  induction positions generalizing n with
  | nil => rfl
  | cons position positions ih =>
    have hlink : ∀ es, termLinksFrom labels (events (link anchor n position) ++ es) =
        ⟨labels.headD [], '#' :: anchor position⟩ :: termLinksFrom labels es := by
      intro es
      have hnumber := termLinksFrom_data labels (Text.ofNat n) (.finish "a".toList :: es)
      simp only [link, events_cons, events_nil, Token.events, List.append_assoc, List.append_nil]
      exact congrArg (_ :: ·) hnumber
    rw [links, events_append, List.append_assoc, hlink, ih]
    rfl

/-- Tokens that open list items with these labels, the innermost first, for a reader that goes on
with a link or a list. -/
def Opens (ts : List Token) (opened : List Text) : Prop :=
  ∀ labels rest, EndsLabel rest →
    termLinksFrom labels (events ts ++ rest) = termLinksFrom (opened ++ labels) rest

theorem Opens.nil : Opens [] [] := fun _ _ _ ↦ rfl

theorem Opens.append {ts us : List Token} {outer inner : List Text} (h : Opens ts outer)
    (h' : Opens us inner) (hends : ∀ rest, EndsLabel rest → EndsLabel (events us ++ rest)) :
    Opens (ts ++ us) (inner ++ outer) := by
  intro labels rest hrest
  rw [events_append, List.append_assoc, h labels _ (hends rest hrest), h' _ rest hrest,
    List.append_assoc]

theorem opens_item (cssClass : String) (label : Text) : Opens (item cssClass label) [label] := by
  intro labels rest hrest
  have hstart : termLinksFrom labels (events (item cssClass label) ++ rest) =
      termLinksFrom (itemLabel (label.map .char ++ rest) :: labels) (label.map .char ++ rest) := by
    rw [item, events_cons, events_cons, events_nil, List.append_nil]
    rfl
  rw [hstart, hrest, termLinksFrom_data]
  rfl

theorem opens_entry (goesOn : Bool) (cssClass : String) (label : Text) :
    Opens (if goesOn then [] else item cssClass label) (if goesOn then [] else [label]) := by
  cases goesOn with
  | false => exact opens_item cssClass label
  | true => exact .nil

theorem Opens.list {ts : List Token} {opened : List Text} (h : Opens ts opened)
    (cssClass : String) : Opens (newline :: list cssClass :: ts) opened :=
  fun labels rest hrest ↦ h labels rest hrest

def shownSubsub (subsub : Text) : List Text := if subsub.isEmpty then [] else [subsub]

def shownSub (display : Heading) : List Text :=
  if display.sub.isEmpty then [] else shownSubsub display.subsub ++ [display.sub]

def shown : Depth → Heading → List Text
  | .main, h => shownSub h
  | .sub, h => shownSubsub h.subsub
  | .subsub, _ => []

theorem opens_openSubsub (subsub : Text) :
    Opens (Walk.openSubsub subsub).1 (shownSubsub subsub) ∧
      ∀ rest, EndsLabel rest → EndsLabel (events (Walk.openSubsub subsub).1 ++ rest) := by
  unfold Walk.openSubsub shownSubsub
  split
  · exact ⟨.nil, fun _ hrest ↦ hrest⟩
  · exact ⟨(opens_item _ _).list _, fun rest _ ↦ endsLabel_list _ _ rest⟩

theorem opens_openSub (display : Heading) :
    Opens (Walk.openSub display).1 (shownSub display) ∧
      ∀ rest, EndsLabel rest → EndsLabel (events (Walk.openSub display).1 ++ rest) := by
  unfold Walk.openSub shownSub
  split
  · exact ⟨.nil, fun _ hrest ↦ hrest⟩
  · obtain ⟨hopens, hends⟩ := opens_openSubsub display.subsub
    exact ⟨((opens_item _ _).append hopens hends).list _, fun rest _ ↦ endsLabel_list _ _ rest⟩

theorem opens_openAt {w : Walk} {key : Heading} (hnew : w.same Heading.sameAll key = false)
    (d : Depth) (display : Heading) : Opens (w.openAt d key display).1
      (shown d display ++ if w.same d.agrees key then [] else [d.level display]) := by
  cases d with
  | main =>
    obtain ⟨hopens, hends⟩ := opens_openSub display
    exact (opens_entry _ _ _).append hopens hends
  | sub =>
    obtain ⟨hopens, hends⟩ := opens_openSubsub display.subsub
    exact (opens_entry _ _ _).append hopens hends
  | subsub =>
    have hagrees : w.same Depth.subsub.agrees key = false := hnew
    rw [hagrees]
    exact opens_item _ _

theorem head?_shown {d : Depth} {h : Heading} (hnested : h.subsub ≠ [] → h.sub ≠ [])
    (hne : shown d h ≠ []) : (shown d h).head? = some h.deepest := by
  unfold Heading.deepest
  cases d with
  | main =>
    cases hs : h.sub <;> cases hss : h.subsub <;> simp_all [shown, shownSub, shownSubsub]
  | sub =>
    cases hss : h.subsub <;> simp_all [shown, shownSubsub]
  | subsub => exact absurd rfl hne

theorem head?_shown_append {d : Depth} {h : Heading} (hnested : h.subsub ≠ [] → h.sub ≠ [])
    (hlevel : d = .main ∨ d.level h ≠ []) :
    (shown d h ++ [d.level h]).head? = some h.deepest := by
  by_cases hne : shown d h = []
  · have hdeepest : h.deepest = d.level h := by
      unfold Heading.deepest
      cases d with
      | main =>
        have hsub : h.sub = [] := by
          by_contra hsub
          simp [shown, shownSub, hsub] at hne
        have hsubsub : h.subsub = [] := by
          by_contra hsubsub
          exact hnested hsubsub hsub
        simp [hsub, hsubsub, Depth.level]
      | sub =>
        have hsubsub : h.subsub = [] := by
          by_contra hsubsub
          simp [shown, shownSubsub, hsubsub] at hne
        have hsub : h.sub ≠ [] := hlevel.resolve_left (by decide)
        simp [hsub, hsubsub, Depth.level]
      | subsub =>
        have hsubsub : h.subsub ≠ [] := hlevel.resolve_left (by decide)
        simp [hsubsub, Depth.level]
    rw [hne, hdeepest]
    rfl
  · rw [List.head?_append, head?_shown hnested hne]
    rfl

theorem above_close {w : Walk} {h : Heading} (hlast : w.last = some h) (key : Heading) :
    (w.close key).2.above key.lower = (w.close key).2.above h.lower := by
  obtain ⟨d, last, n⟩ := w
  obtain rfl : last = some h := hlast
  cases hs : key.sameSub h with
  | true =>
    have hsub := (Depth.agrees_iff .sub key h).1 hs
    have hmain : Depth.main.upTo key.lower = Depth.main.upTo h.lower := by
      rw [Depth.upTo_eq_iff] at hsub
      exact hsub.1
    cases d <;> simp [Walk.close, Walk.closeSubsub, Walk.closeSub, Walk.same, hs]
    · rfl
    · exact hmain
    · exact hsub
  | false =>
    cases hm : key.sameMain h with
    | true =>
      have hmain := (Depth.agrees_iff .main key h).1 hm
      cases d <;> simp [Walk.close, Walk.closeSubsub, Walk.closeSub, Walk.same, hs, hm]
      · rfl
      · exact hmain
      · exact hmain
    | false =>
      cases d <;> simp [Walk.close, Walk.closeSubsub, Walk.closeSub, Walk.same, hs, hm] <;> rfl

theorem upTo_eq_of_level_eq_nil {d : Depth} {a b : Heading} (habove : d.above a = d.above b)
    (hle : b.order ≤ a.order) (hlevel : d.level a = []) : d.upTo a = d.upTo b := by
  have hlevels := Depth.level_le habove.symm hle
  rw [hlevel] at hlevels
  have hnil : d.level b = [] := le_antisymm hlevels ((Text.le_iff [] _).1 rfl)
  exact (Depth.upTo_eq_iff d a b).2 ⟨habove, hlevel.trans hnil.symm⟩

section

variable {items : List (Item α)} {i : Item α} (hi : i.ShowsKey items) {h : Heading}
  (hmem : ∃ j ∈ items, j.key.lower = h.lower) (hlt : h.lower.order < i.key.lower.order)

include hi hmem hlt

theorem Item.ShowsKey.level_ne_nil {d : Depth} (hd : d ≠ .main)
    (habove : d.above i.key.lower = d.above h.lower) (hlevel : d.level i.key.lower ≠ []) :
    d.level i.display ≠ [] := by
  obtain ⟨j, hj, hkey⟩ := hmem
  have hle : i.le j = false := by
    rw [Bool.eq_false_iff, Ne, Item.le_iff, hkey]
    exact hlt.not_ge
  rw [← hkey] at habove
  cases d with
  | main => exact absurd rfl hd
  | sub =>
    have hmain : i.key.sameMain j.key = true := (Depth.agrees_iff .main _ _).2 habove
    exact hi.sub ⟨j, hj, hle, hmain⟩ fun hnil ↦ hlevel (Text.lower_eq_nil_iff.2 hnil)
  | subsub =>
    have hsub : i.key.sameSub j.key = true := (Depth.agrees_iff .sub _ _).2 habove
    exact hi.subsub ⟨j, hj, hle, hsub⟩ fun hnil ↦ hlevel (Text.lower_eq_nil_iff.2 hnil)

theorem Item.ShowsKey.subsub_ne_nil
    (hagrees : Depth.sub.upTo i.key.lower = Depth.sub.upTo h.lower) : i.display.subsub ≠ [] := by
  apply hi.level_ne_nil hmem hlt (d := .subsub) nofun hagrees
  intro hnil
  have hkey : i.key.lower = h.lower := upTo_eq_of_level_eq_nil (d := .subsub) hagrees hlt.le hnil
  rw [hkey] at hlt
  exact lt_irrefl _ hlt

theorem Item.ShowsKey.shown_ne_nil {d : Depth} (hagrees : d.upTo i.key.lower = d.upTo h.lower) :
    shown d i.display ≠ [] := by
  cases d with
  | main =>
    have hsub : i.display.sub ≠ [] := by
      by_cases hnil : Depth.sub.level i.key.lower = []
      · apply hi.nested
        exact hi.subsub_ne_nil hmem hlt (upTo_eq_of_level_eq_nil hagrees hlt.le hnil)
      · exact hi.level_ne_nil hmem hlt (d := .sub) nofun hagrees hnil
    simp [shown, shownSub, hsub]
  | sub => simp [shown, shownSubsub, hi.subsub_ne_nil hmem hlt hagrees]
  | subsub =>
    have hkey : i.key.lower = h.lower := hagrees
    rw [hkey] at hlt
    exact absurd hlt (lt_irrefl _)

end

theorem head?_opened {items : List (Item α)} {w : Walk} {i : Item α}
    (hstart : w.last = none → w.depth = .main)
    (hmem : ∀ h ∈ w.last, ∃ j ∈ items, j.key.lower = h.lower)
    (hlast : ∀ h ∈ w.last, h.lower.order < i.key.lower.order) (hi : i.ShowsKey items) :
    (shown (w.close i.key).2 i.display ++
      if w.same (w.close i.key).2.agrees i.key then []
      else [(w.close i.key).2.level i.display]).head? = some i.display.deepest := by
  cases hprev : w.last with
  | none =>
    have hclose : (w.close i.key).2 = .main := by
      simp [Walk.close, hprev, hstart]
    have hsame : w.same Depth.main.agrees i.key = false := by
      simp [Walk.same, hprev]
    rw [hclose, hsame]
    exact head?_shown_append hi.nested (.inl rfl)
  | some h =>
    have habove := above_close hprev i.key
    generalize (w.close i.key).2 = d at habove ⊢
    have hagrees : w.same d.agrees i.key = true ↔ d.upTo i.key.lower = d.upTo h.lower := by
      rw [Walk.same, hprev, Option.any_some, Depth.agrees_iff]
    cases hsame : w.same d.agrees i.key with
    | true =>
      rw [if_pos rfl, List.append_nil]
      apply head?_shown hi.nested
      exact hi.shown_ne_nil (hmem h hprev) (hlast h hprev) (hagrees.1 hsame)
    | false =>
      apply head?_shown_append hi.nested
      by_cases hd : d = .main
      · exact .inl hd
      · right
        apply hi.level_ne_nil (hmem h hprev) (hlast h hprev) hd habove
        intro hlevel
        have htrue := hagrees.2 (upTo_eq_of_level_eq_nil habove (hlast h hprev).le hlevel)
        rw [hsame] at htrue
        cases htrue

theorem termLinksFrom_key {items : List (Item α)} {w : Walk} {i : Item α} {own : List (Item α)}
    (hstart : w.last = none → w.depth = .main)
    (hmem : ∀ h ∈ w.last, ∃ j ∈ items, j.key.lower = h.lower)
    (hlast : ∀ h ∈ w.last, h.lower.order < i.key.lower.order)
    (hown : ∀ j ∈ own, j.key.lower = i.key.lower) (others : List (Item α)) (labels : List Text)
    (rest : List Event) : ∃ h d n labels', h.lower = i.key.lower ∧
      (i.ShowsKey items → labels'.headD [] = i.display.deepest) ∧
      termLinksFrom labels (events (w.run anchor (i :: own ++ others)) ++ rest) =
        (i :: own).map (fun j ↦ ⟨labels'.headD [], '#' :: anchor j.position⟩) ++
          termLinksFrom labels' (events (Walk.run anchor ⟨d, some h, n⟩ others) ++ rest) := by
  have hnew : w.same Heading.sameAll i.key = false := by
    cases hl : w.last with
    | none => simp [Walk.same, hl]
    | some h =>
      refine Bool.eq_false_iff.2 fun hs ↦ (hlast h hl).ne' ?_
      rw [Walk.same, hl, Option.any_some, Heading.sameAll_iff] at hs
      rw [hs]
  obtain ⟨h, n, hh, hrun⟩ := run_new anchor hnew hown others
  obtain ⟨labels₁, hclose⟩ := termLinksFrom_closing (mem_close w i.key) labels
  let d := (w.close i.key).2
  let labels' := shown d i.display ++
    (if w.same d.agrees i.key then [] else [d.level i.display]) ++ labels₁
  refine ⟨h, (w.openAt d i.key i.display).2, n, labels', hh, ?_, ?_⟩
  · intro hi
    rw [List.headD_eq_head?_getD, List.head?_append, head?_opened hstart hmem hlast hi]
    rfl
  · have hopens := opens_openAt hnew d i.display labels₁ _
      (endsLabel_links anchor 1 i.position (own.map Item.position)
        (events (Walk.run anchor ⟨(w.openAt d i.key i.display).2, some h, n⟩ others) ++ rest))
    rw [hrun, events_append, events_append, events_append, List.append_assoc, List.append_assoc,
      List.append_assoc, hclose, List.map_cons, hopens, ← List.map_cons, termLinksFrom_links,
      List.map_map]
    rfl

/-- A link refers to an item, and stands under the term that the first item of the same key shows,
if that shows its key. -/
def StandsUnder (items : List (Item α)) (i : Item α) (l : TermLink) : Prop :=
  l.href = '#' :: anchor i.position ∧
    ∀ first ∈ (withKey i.key.lower items).head?,
      first.ShowsKey items → l.label = first.display.deepest

theorem termLinksFrom_run (items : List (Item α)) {ks : List Heading}
    (hks : ks.Pairwise (·.order < ·.order)) (hmem : ∀ v ∈ ks, ∃ i ∈ items, i.key.lower = v)
    {w : Walk} (hstart : w.last = none → w.depth = .main)
    (hseen : ∀ h ∈ w.last, ∃ j ∈ items, j.key.lower = h.lower)
    (hlast : ∀ h ∈ w.last, ∀ v ∈ ks, h.lower.order < v.order) (labels : List Text)
    {rest : List Event} (hrest : ∀ labels, termLinksFrom labels rest = []) :
    List.Forall₂ (StandsUnder anchor items) (ks.flatMap fun v ↦ withKey v items)
      (termLinksFrom labels
        (events (w.run anchor (ks.flatMap fun v ↦ withKey v items)) ++ rest)) := by
  -- All keys to come stand behind the last one, so that each opens an item if it shows what sets it
  -- apart; the labels of the items around it do not matter.
  induction ks generalizing w labels with
  | nil =>
    obtain ⟨labels', hclose⟩ := termLinksFrom_closing (mem_closeAll w.depth) labels
    have hnil : termLinksFrom labels (events (w.run anchor []) ++ rest) = [] := by
      rw [Walk.run, hclose, hrest]
    rw [List.flatMap_nil, hnil]
    exact .nil
  | cons v ks ih =>
    rw [List.pairwise_cons] at hks
    obtain ⟨i, own, hrun, hi, hown⟩ := exists_withKey_eq_cons (hmem v List.mem_cons_self)
    have hbefore : ∀ h ∈ w.last, h.lower.order < i.key.lower.order := by
      intro h hl
      rw [hi]
      exact hlast h hl v List.mem_cons_self
    obtain ⟨h, d, n, labels', hh, hlabel, hlinks⟩ := termLinksFrom_key anchor hstart hseen hbefore
      hown (ks.flatMap fun v ↦ withKey v items) labels rest
    rw [List.flatMap_cons, hrun, hlinks]
    apply List.rel_append
    · rw [List.forall₂_map_right_iff, List.forall₂_same]
      intro j hj
      refine ⟨rfl, ?_⟩
      intro first hfirst
      have hj' : j.key.lower = v := (mem_withKey.1 (hrun ▸ hj)).2
      rw [hj', hrun] at hfirst
      obtain rfl : i = first := Option.some.inj hfirst
      exact hlabel
    · apply ih hks.2 (fun u hu ↦ hmem u (List.mem_cons_of_mem v hu))
      · intro hnone
        cases hnone
      · intro k hk
        cases hk
        obtain ⟨j, hj, hjv⟩ := hmem v List.mem_cons_self
        exact ⟨j, hj, by rw [hjv, hh, hi]⟩
      · intro k hk u hu
        cases hk
        rw [hh, hi]
        exact hks.1 u hu

theorem termLinksFrom_indexHead (style : Style) (rest : List Event) :
    termLinksFrom [] (events (indexHead style) ++ rest) = termLinksFrom [] rest := by
  have hhref : ∀ name, (Event.start name []).href? = none := by
    intro name
    rw [Event.href?]
    exact ite_self _
  let behind := .finish style.headingTag :: (events [newline, list "main", newline] ++ rest)
  have hheading : termLinksFrom [] (events (indexHead style) ++ rest) =
      termLinksFrom [] (.start style.headingTag [] :: (style.heading.map .char ++ behind)) := by
    simp only [indexHead, events_cons, events_nil, Token.events, List.append_assoc]
    rfl
  rw [hheading, termLinksFrom, hhref, termLinksFrom_data, termLinksFrom]
  by_cases hli : style.headingTag = "li".toList
  · rw [Event.openLabels, if_pos hli, Event.openLabels, if_pos hli]
    rfl
  · rw [Event.openLabels, if_neg hli, Event.openLabels, if_neg hli]
    rfl

/-- The main index holds one link for each row, in the order of the sorted items, and each link stands
in a list item with the label of its key: the deepest level that the first item with this key shows.
-/
theorem termLinks_render {o : Options} (hs : o.separator ≠ []) (rows : List (Row α)) :
    ∃ items, List.Forall₂ (fun row i ↦ Item.ofRow o.separator o.escape row = .ok i) rows items ∧
      render anchor o (some mainIndex) rows = .ok (write (indexTokens anchor o.style items)) ∧
      (PlainName o.style.headingTag → read (write (indexTokens anchor o.style items)) =
        some (events (indexTokens anchor o.style items))) ∧
      List.Forall₂ (StandsUnder anchor items) (sort items)
        (termLinks (events (indexTokens anchor o.style items))) := by
  obtain ⟨items, hitems, -, hrender⟩ := exists_render anchor hs rows
  refine ⟨items, collect_eq_ok_iff.1 hitems, hrender, fun h ↦ read_indexTokens anchor h items, ?_⟩
  unfold indexTokens
  split
  · rename_i hnil
    rw [hnil, sort_nil]
    exact .nil
  · have hend : ∀ labels, termLinksFrom labels (events indexEnd) = [] := fun labels ↦ rfl
    rw [termLinks, tokens_eq, events_append, events_append, List.append_assoc,
      termLinksFrom_indexHead, sort_eq_flatMap_withKey]
    apply termLinksFrom_run anchor items (pairwise_keys items) (fun v hv ↦ mem_keys.1 hv)
    · intro hnone
      rfl
    · intro h hl
      cases hl
    · intro h hl
      cases hl
    · exact hend

/-- Rows with three levels, with one level more or less shown than sorted, and with one key shown in
two ways. -/
def labelledRows : List (Row Text) :=
  [⟨"b ! x ! y@z".toList, [], "p1".toList⟩, ⟨"B ! @s".toList, [], "p2".toList⟩,
    ⟨"a|textbf".toList, [], "p3".toList⟩, ⟨"b ! X ! Y".toList, [], "p4".toList⟩,
    ⟨"c ! d@".toList, [], "p5".toList⟩]

def labelledItems : List (Item Text) :=
  [⟨⟨"b".toList, "x".toList, "y".toList⟩, ⟨"b".toList, "x".toList, "z".toList⟩, "p1".toList⟩,
    ⟨⟨"B".toList, [], []⟩, ⟨"B".toList, "s".toList, []⟩, "p2".toList⟩,
    ⟨⟨"a".toList, [], []⟩, ⟨"a".toList, [], []⟩, "p3".toList⟩,
    ⟨⟨"b".toList, "X".toList, "Y".toList⟩, ⟨"b".toList, "X".toList, "Y".toList⟩, "p4".toList⟩,
    ⟨⟨"c".toList, "d".toList, []⟩, ⟨"c".toList, [], []⟩, "p5".toList⟩]

theorem termLinks_render_labelled : unalignedOptions.separator ≠ [] ∧
    collect unalignedOptions.separator unalignedOptions.escape labelledRows = .ok labelledItems ∧
    (∀ i ∈ labelledItems, i.ShowsKey labelledItems) ∧
    ∃ items, List.Forall₂
        (fun row i ↦ Item.ofRow unalignedOptions.separator unalignedOptions.escape row = .ok i)
        labelledRows items ∧
      render id unalignedOptions (some mainIndex) labelledRows =
        .ok (write (indexTokens id unalignedOptions.style items)) ∧
      (PlainName unalignedOptions.style.headingTag →
        read (write (indexTokens id unalignedOptions.style items)) =
          some (events (indexTokens id unalignedOptions.style items))) ∧
      List.Forall₂ (StandsUnder id items) (sort items)
        (termLinks (events (indexTokens id unalignedOptions.style items))) :=
  ⟨by decide, rfl, by decide, termLinks_render id (by decide) labelledRows⟩

/-- Two terms with one sort key. -/
def sharedRows : List (Row Text) :=
  [⟨"k@X".toList, [], "p1".toList⟩, ⟨"k@Y".toList, [], "p2".toList⟩]

def sharedItems : List (Item Text) :=
  [⟨⟨"k".toList, [], []⟩, ⟨"X".toList, [], []⟩, "p1".toList⟩,
    ⟨⟨"k".toList, [], []⟩, ⟨"Y".toList, [], []⟩, "p2".toList⟩]

theorem termLinks_of_sharedRows :
    collect unalignedOptions.separator unalignedOptions.escape sharedRows = .ok sharedItems ∧
      render id unalignedOptions (some mainIndex) sharedRows =
        .ok (write (indexTokens id unalignedOptions.style sharedItems)) ∧
      ¬List.Forall₂ (fun i l ↦ i.display.main ≠ [] →
          Text.lower (TermLink.label l) = Text.lower i.display.deepest) (sort sharedItems)
        (termLinks (events (indexTokens id unalignedOptions.style sharedItems))) := by
  have hcollect : collect unalignedOptions.separator unalignedOptions.escape sharedRows =
      .ok sharedItems := rfl
  have hkey : ∀ i ∈ sharedItems, i.key.lower = ⟨"k".toList, [], []⟩ := by decide
  have hsort : sort sharedItems = sharedItems := sort_eq (pairwise_of_key_eq hkey) fun _ ↦ rfl
  have hne : sharedItems ≠ [] := List.cons_ne_nil _ _
  have hlinks : termLinks (events (indexTokens id unalignedOptions.style sharedItems)) =
      [⟨"X".toList, "#p1".toList⟩, ⟨"X".toList, "#p2".toList⟩] := by
    rw [indexTokens, if_neg hne, hsort]
    rfl
  obtain ⟨items, hitems, -, hrender⟩ :=
    exists_render (o := unalignedOptions) id (by decide) sharedRows
  rw [hcollect] at hitems
  obtain rfl := Except.ok.inj hitems
  refine ⟨hcollect, hrender, ?_⟩
  rw [hsort, hlinks]
  intro h
  rcases h with _ | ⟨-, _ | ⟨hsecond, -⟩⟩
  have hlabel := hsecond (by decide)
  revert hlabel
  decide

end Xhtml
end BookIndex
