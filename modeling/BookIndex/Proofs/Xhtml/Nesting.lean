import BookIndex.Proofs.Xhtml.Grouping
import BookIndex.Proofs.Xml.Reading

namespace BookIndex

namespace Xml

/-- The names of the open elements behind an event, innermost first, if the event may stand there. -/
def Event.open? (fits : List Text → Text → Bool) (opened : List Text) : Event → Option (List Text)
  | .start name _ => if fits opened name then some (name :: opened) else none
  | .finish name => if opened.head? = some name then some opened.tail else none
  | .empty name _ => if fits opened name then some opened else none
  | .char _ => some opened

def openAfter (fits : List Text → Text → Bool) (opened : List Text) (es : List Event) :
    Option (List Text) :=
  es.foldlM (Event.open? fits) opened

/-- Every element is closed in its turn, and stands where it fits. -/
def Nested (fits : List Text → Text → Bool) (es : List Event) : Prop := openAfter fits [] es = some []

instance (fits : List Text → Text → Bool) (es : List Event) : Decidable (Nested fits es) :=
  inferInstanceAs (Decidable (_ = _))

theorem openAfter_append (fits : List Text → Text → Bool) (opened : List Text)
    (es es' : List Event) : openAfter fits opened (es ++ es') =
      (openAfter fits opened es).bind fun names ↦ openAfter fits names es' :=
  List.foldlM_append

theorem openAfter_data (fits : List Text → Text → Bool) (opened : List Text) (s : Text) :
    openAfter fits opened (s.map .char) = some opened := by
  induction s with
  | nil => rfl
  | cons c s ih => exact ih

end Xml

namespace Xhtml

open Markup Xml

/-- Where the elements of an index stand: the outermost list and the heading in the division, list
items in lists, links and further lists in list items. -/
def fits (opened : List Text) (name : Text) : Bool :=
  if name = "ul".toList then opened == ["div".toList] || opened.head? == some "li".toList
  else if name = "li".toList then opened.head? == some "ul".toList
  else if name = "a".toList then opened.head? == some "li".toList
  else if name = "div".toList then opened.isEmpty
  else opened == ["div".toList]

def Leads (opened : List Text) (ts : List Token) (opened' : List Text) : Prop :=
  openAfter fits opened (events ts) = some opened'

theorem Leads.nil (opened : List Text) : Leads opened [] opened := rfl

theorem Leads.trans {a b c : List Text} {ts us : List Token} (h : Leads a ts b)
    (h' : Leads b us c) : Leads a (ts ++ us) c := by
  unfold Leads at h h' ⊢
  rw [events_append, openAfter_append, h, Option.bind_some, h']

theorem Leads.cons {a b c : List Text} {t : Token} {ts : List Token} (h : Leads a [t] b)
    (h' : Leads b ts c) : Leads a (t :: ts) c :=
  h.trans h'

theorem leads_data (opened : List Text) (s : Text) : Leads opened [.data s] opened := by
  unfold Leads
  rw [events_cons, events_nil, List.append_nil]
  exact openAfter_data fits opened s

theorem leads_start {opened : List Text} {name : Text} (h : fits opened name = true)
    (attrs : Attrs) (q : Text) : Leads opened [.start name attrs q] (name :: opened) := by
  have hopen : Event.open? fits opened (.start name attrs) = some (name :: opened) := if_pos h
  unfold Leads
  rw [events_cons, events_nil, Token.events, List.append_nil, openAfter, List.foldlM_cons, hopen]
  rfl

theorem leads_finish (opened : List Text) (name : Text) :
    Leads (name :: opened) [.finish name] opened := by
  have hclose : Event.open? fits (name :: opened) (.finish name) = some opened := if_pos rfl
  unfold Leads
  rw [events_cons, events_nil, Token.events, List.append_nil, openAfter, List.foldlM_cons, hclose]
  rfl

def inList : Depth → List Text
  | .main => ["ul".toList, "div".toList]
  | .sub => ["ul".toList, "li".toList, "ul".toList, "div".toList]
  | .subsub => ["ul".toList, "li".toList, "ul".toList, "li".toList, "ul".toList, "div".toList]

def inItem (d : Depth) : List Text := "li".toList :: inList d

theorem leads_item (d : Depth) (cssClass : String) (label : Text) :
    Leads (inList d) (item cssClass label) (inItem d) := by
  have hli : fits (inList d) "li".toList = true := by cases d <;> rfl
  exact (leads_start hli _ _).cons (leads_data _ label)

theorem leads_entry (d : Depth) (goesOn : Bool) (cssClass : String) (label : Text) :
    Leads (if goesOn then inItem d else inList d) (if goesOn then [] else item cssClass label)
      (inItem d) := by
  cases goesOn
  · exact leads_item d cssClass label
  · exact .nil _

theorem leads_list {d : Depth} (hd : d ≠ .main) (cssClass : String) :
    Leads (inItem d.parent) [newline, list cssClass] (inList d) := by
  cases d with
  | main => exact absurd rfl hd
  | sub => rfl
  | subsub => rfl

variable {α : Type} (anchor : α → Text)

theorem leads_link (d : Depth) (n : ℕ) (position : α) :
    Leads (inItem d) (link anchor n position) (inItem d) := by
  have ha : fits (inItem d) "a".toList = true := by cases d <;> rfl
  exact (leads_data _ _).cons <| (leads_data _ _).cons <| (leads_start ha _ _).cons <|
    (leads_data _ _).cons (leads_finish _ _)

def openNames (w : Walk) : List Text := if w.last.isNone then inList w.depth else inItem w.depth

def between (w : Walk) (d : Depth) (key : Heading) : List Text :=
  if w.same d.agrees key then inItem d else inList d

theorem leads_close {w : Walk} {key : Heading} (h : w.same Heading.sameAll key = false) :
    Leads (openNames w) (w.close key).1 (between w (w.close key).2 key) := by
  obtain ⟨d, last, n⟩ := w
  cases last with
  | none => exact .nil _
  | some k =>
    have ha : key.sameAll k = false := h
    -- A change of the main level is one of the sub-level too, so that three comparisons leave three
    -- ways to close at each depth.
    cases hm : key.sameMain k with
    | false =>
      have hs : key.sameSub k = false := sameSub_eq_false hm
      cases d <;>
        simp [Walk.close, Walk.closeSubsub, Walk.closeSub, Walk.closeMain, Walk.same, hm, hs,
          between, Depth.agrees, openNames] <;> rfl
    | true =>
      cases hs : key.sameSub k <;> cases d <;>
        simp [Walk.close, Walk.closeSubsub, Walk.closeSub, Walk.closeMain, Walk.same, hm, hs, ha,
          between, Depth.agrees, openNames] <;> rfl

theorem leads_openSubsub (subsub : Text) :
    Leads (inItem .sub) (Walk.openSubsub subsub).1 (inItem (Walk.openSubsub subsub).2) := by
  unfold Walk.openSubsub
  split
  · exact .nil _
  · exact (leads_list (d := .subsub) nofun _).trans (leads_item .subsub _ _)

theorem leads_openSub (display : Heading) :
    Leads (inItem .main) (Walk.openSub display).1 (inItem (Walk.openSub display).2) := by
  unfold Walk.openSub
  split
  · exact .nil _
  · have hlist : Leads (inItem .main) [newline, list "subentry"] (inList .sub) :=
      leads_list (d := .sub) nofun _
    exact (hlist.trans (leads_item .sub _ _)).trans (leads_openSubsub display.subsub)

theorem leads_openAt {w : Walk} {key : Heading} (h : w.same Heading.sameAll key = false) (d : Depth)
    (display : Heading) :
    Leads (between w d key) (w.openAt d key display).1 (inItem (w.openAt d key display).2) := by
  cases d with
  | subsub =>
    have hb : between w .subsub key = inList .subsub := by
      unfold between
      rw [Depth.agrees, h]
      rfl
    rw [hb]
    exact leads_item .subsub _ _
  | sub =>
    have hitem : Leads (between w .sub key)
        (if w.same Heading.sameSub key then [] else item "subentry" display.sub) (inItem .sub) :=
      leads_entry .sub _ _ _
    exact hitem.trans (leads_openSubsub display.subsub)
  | main =>
    have hitem : Leads (between w .main key)
        (if w.same Heading.sameMain key then [] else item "main" display.main) (inItem .main) :=
      leads_entry .main _ _ _
    exact hitem.trans (leads_openSub display)

theorem leads_step (w : Walk) (i : Item α) :
    Leads (openNames w) (w.step anchor i).1 (openNames (w.step anchor i).2) := by
  unfold Walk.step
  split
  · rename_i hsame
    have hlast : openNames w = inItem w.depth := by
      unfold openNames
      cases hl : w.last with
      | none => simp [Walk.same, hl] at hsame
      | some k => rfl
    rw [hlast]
    exact leads_link anchor w.depth _ _
  · rename_i hsame
    rw [Bool.not_eq_true] at hsame
    exact ((leads_close hsame).trans (leads_openAt hsame _ _)).trans (leads_link anchor _ _ _)

theorem leads_closeAll (d : Depth) : Leads (inItem d) (closeAll d) ["div".toList] := by
  cases d <;> rfl

theorem leads_run (w : Walk) (items : List (Item α)) (h : w.last.isSome ∨ items ≠ []) :
    Leads (openNames w) (w.run anchor items) ["div".toList] := by
  induction items generalizing w with
  | nil =>
    have hlast : w.last.isNone = false := by simpa using h
    rw [Walk.run, openNames, hlast]
    exact leads_closeAll w.depth
  | cons i items ih =>
    have hlast : (w.step anchor i).2.last.isSome := by
      unfold Walk.step
      split <;> rfl
    exact (leads_step anchor w i).trans (ih _ (.inl hlast))

def indexHead (style : Style) : List Token :=
  [.start "div".toList [("class".toList, "index ".toList ++ style.cssClass)] quote, newline,
    .start style.headingTag [] ['"'], .data style.heading, .finish style.headingTag, newline,
    list "main", newline]

def indexEnd : List Token := [.finish "div".toList, newline]

theorem tokens_eq (style : Style) (items : List (Item α)) :
    tokens anchor style items = indexHead style ++ Walk.initial.run anchor items ++ indexEnd := rfl

theorem leads_indexHead {style : Style} (h : fits ["div".toList] style.headingTag = true) :
    Leads [] (indexHead style) (inList .main) := by
  have hdiv : fits [] "div".toList = true := rfl
  have hlist : Leads ["div".toList] [newline, list "main", newline] (inList .main) := rfl
  exact (leads_start hdiv _ _).cons <| (leads_data _ _).cons <| (leads_start h _ _).cons <|
    (leads_data _ _).cons <| (leads_finish _ _).cons hlist

theorem nested_tokens {style : Style} (h : fits ["div".toList] style.headingTag = true)
    {items : List (Item α)} (hne : items ≠ []) :
    Nested fits (events (tokens anchor style items)) := by
  have hrun : Leads (inList .main) (Walk.initial.run anchor items) ["div".toList] :=
    leads_run anchor .initial items (.inr hne)
  have hend : Leads ["div".toList] indexEnd [] := rfl
  rw [tokens_eq]
  exact ((leads_indexHead h).trans hrun).trans hend

/-- The tokens that the walk writes between links: line breaks, lists, items and their labels. -/
inductive Frame : Token → Prop
  | data (s : Text) : Frame (.data s)
  | list (cssClass : String) : Frame (list cssClass)
  | item (cssClass : String) :
    Frame (.start "li".toList [("class".toList, cssClass.toList)] quote)
  | endList : Frame endList
  | endItem : Frame endItem

theorem quote_plain : ∃ q ∈ quotes, quote = [q] := ⟨'\'', by decide, rfl⟩

theorem Frame.plain {t : Token} (h : Frame t) : t.Plain := by
  have hclass : PlainName "class".toList := by decide
  cases h with
  | data s => trivial
  | list c => exact ⟨by decide, List.forall_mem_singleton.2 ⟨hclass, quote_plain⟩⟩
  | item c => exact ⟨by decide, List.forall_mem_singleton.2 ⟨hclass, quote_plain⟩⟩
  | endList => exact (by decide : PlainName "ul".toList)
  | endItem => exact (by decide : PlainName "li".toList)

theorem frame_item (cssClass : String) (label : Text) : ∀ t ∈ item cssClass label, Frame t :=
  List.forall_mem_cons.2 ⟨.item cssClass, List.forall_mem_singleton.2 (.data label)⟩

theorem mem_close (w : Walk) (key : Heading) :
    ∀ t ∈ (w.close key).1, t = endItem ∨ t = endList ∨ t = newline := by
  have hsubsub : ∀ t ∈ (w.closeSubsub key).1, t = endItem ∨ t = endList ∨ t = newline := by
    unfold Walk.closeSubsub
    split
    · split <;> simp
    · exact nofun
  have hsub : ∀ d, ∀ t ∈ (w.closeSub d key).1, t = endItem ∨ t = endList ∨ t = newline := by
    intro d
    unfold Walk.closeSub
    split
    · split <;> simp
    · exact nofun
  have hmain : ∀ d, ∀ t ∈ w.closeMain d key, t = endItem ∨ t = endList ∨ t = newline := by
    intro d
    unfold Walk.closeMain
    split
    · simp
    · exact nofun
  unfold Walk.close
  split
  · exact nofun
  · exact List.forall_mem_append.2 ⟨List.forall_mem_append.2 ⟨hsubsub, hsub _⟩, hmain _⟩

theorem mem_closeAll (d : Depth) : ∀ t ∈ closeAll d, t = endItem ∨ t = endList ∨ t = newline := by
  cases d <;> simp [closeAll]

theorem frame_of_closing {t : Token} (h : t = endItem ∨ t = endList ∨ t = newline) : Frame t := by
  rcases h with rfl | rfl | rfl
  · exact .endItem
  · exact .endList
  · exact .data _

theorem frame_close (w : Walk) (key : Heading) : ∀ t ∈ (w.close key).1, Frame t :=
  fun t ht ↦ frame_of_closing (mem_close w key t ht)

theorem frame_openSubsub (subsub : Text) : ∀ t ∈ (Walk.openSubsub subsub).1, Frame t := by
  unfold Walk.openSubsub
  split
  · exact nofun
  · simpa [newline, Frame.data, Frame.list] using frame_item "subsubentry" subsub

theorem frame_openSub (display : Heading) : ∀ t ∈ (Walk.openSub display).1, Frame t := by
  unfold Walk.openSub
  split
  · exact nofun
  · refine List.forall_mem_append.2 ⟨?_, frame_openSubsub display.subsub⟩
    simpa [newline, Frame.data, Frame.list] using frame_item "subentry" display.sub

theorem frame_openAt (w : Walk) (d : Depth) (key display : Heading) :
    ∀ t ∈ (w.openAt d key display).1, Frame t := by
  have hentry : ∀ (goesOn : Bool) (cssClass : String) (label : Text),
      ∀ t ∈ (if goesOn then [] else item cssClass label), Frame t := by
    intro goesOn cssClass label
    cases goesOn
    · exact frame_item cssClass label
    · exact nofun
  cases d with
  | subsub => exact frame_item _ _
  | sub => exact List.forall_mem_append.2 ⟨hentry _ _ _, frame_openSubsub _⟩
  | main => exact List.forall_mem_append.2 ⟨hentry _ _ _, frame_openSub _⟩

theorem frame_closeAll (d : Depth) : ∀ t ∈ closeAll d, Frame t :=
  fun t ht ↦ frame_of_closing (mem_closeAll d t ht)

theorem plain_link (n : ℕ) (position : α) : ∀ t ∈ link anchor n position, t.Plain := by
  have ha : PlainName "a".toList := by decide
  have hhref : PlainName "href".toList := by decide
  have hstart : (Token.start "a".toList [("href".toList, '#' :: anchor position)] quote).Plain :=
    ⟨ha, List.forall_mem_singleton.2 ⟨hhref, quote_plain⟩⟩
  exact List.forall_mem_cons.2 ⟨trivial, List.forall_mem_cons.2 ⟨trivial,
    List.forall_mem_cons.2 ⟨hstart, List.forall_mem_cons.2 ⟨trivial,
      List.forall_mem_singleton.2 ha⟩⟩⟩⟩

theorem plain_run (w : Walk) (items : List (Item α)) : ∀ t ∈ w.run anchor items, t.Plain := by
  induction items generalizing w with
  | nil => exact fun t ht ↦ (frame_closeAll w.depth t ht).plain
  | cons i items ih =>
    refine List.forall_mem_append.2 ⟨?_, ih _⟩
    unfold Walk.step
    split
    · exact plain_link anchor _ _
    · refine List.forall_mem_append.2 ⟨List.forall_mem_append.2 ⟨?_, ?_⟩, plain_link anchor _ _⟩
      · exact fun t ht ↦ (frame_close w i.key t ht).plain
      · exact fun t ht ↦ (frame_openAt w _ i.key i.display t ht).plain

theorem plain_indexHead {style : Style} (h : PlainName style.headingTag) :
    ∀ t ∈ indexHead style, t.Plain := by
  have hclass : PlainName "class".toList := by decide
  have hdiv : PlainName "div".toList := by decide
  intro t ht
  simp only [indexHead, List.mem_cons, List.not_mem_nil, or_false] at ht
  rcases ht with rfl | rfl | rfl | rfl | rfl | rfl | rfl | rfl
  · exact ⟨hdiv, List.forall_mem_singleton.2 ⟨hclass, quote_plain⟩⟩
  · trivial
  · exact ⟨h, nofun⟩
  · trivial
  · exact h
  · trivial
  · exact (Frame.list "main").plain
  · trivial

theorem plain_tokens {style : Style} (h : PlainName style.headingTag) (items : List (Item α)) :
    ∀ t ∈ tokens anchor style items, t.Plain := by
  have hdiv : PlainName "div".toList := by decide
  have hend : ∀ t ∈ indexEnd, t.Plain :=
    List.forall_mem_cons.2 ⟨hdiv, List.forall_mem_singleton.2 trivial⟩
  rw [tokens_eq]
  exact List.forall_mem_append.2
    ⟨List.forall_mem_append.2 ⟨plain_indexHead h, plain_run anchor .initial items⟩, hend⟩

theorem position_ofRow {separator esc : Text} {row : Row α} {i : Item α}
    (h : Item.ofRow separator esc row = .ok i) : i.position = row.position := by
  unfold Item.ofRow at h
  cases hm : subentries separator row.markup with
  | error e => rw [hm] at h; cases h
  | ok markup =>
    cases hp : subentries separator row.plain with
    | error e => rw [hm, hp] at h; cases h
    | ok plain =>
      rw [hm, hp] at h
      cases h
      rfl

theorem collect_eq_ok_iff {separator esc : Text} {rows : List (Row α)} {items : List (Item α)} :
    collect separator esc rows = .ok items ↔
      List.Forall₂ (fun row i ↦ Item.ofRow separator esc row = .ok i) rows items := by
  induction rows generalizing items with
  | nil =>
    rw [List.forall₂_nil_left_iff]
    exact ⟨fun h ↦ (Except.ok.inj h).symm, fun h ↦ congrArg Except.ok h.symm⟩
  | cons row rows ih =>
    rw [List.forall₂_cons_left_iff]
    unfold collect at ih ⊢
    rw [List.mapM_cons]
    constructor
    · intro h
      cases hi : Item.ofRow separator esc row with
      | error e => rw [hi] at h; cases h
      | ok i =>
        cases hr : rows.mapM (Item.ofRow separator esc) with
        | error e => rw [hi, hr] at h; cases h
        | ok others =>
          rw [hi, hr] at h
          cases h
          exact ⟨i, others, rfl, ih.1 hr, rfl⟩
    · intro h
      obtain ⟨i, others, hi, hr, rfl⟩ := h
      rw [hi, ih.2 hr]
      rfl

theorem positions_collect {separator esc : Text} {rows : List (Row α)} {items : List (Item α)}
    (h : collect separator esc rows = .ok items) :
    items.map Item.position = rows.map Row.position := by
  rw [collect_eq_ok_iff] at h
  induction h with
  | nil => rfl
  | cons hi _ ih => rw [List.map_cons, List.map_cons, position_ofRow hi, ih]

/-- The tokens of the index of collected items; without items there is none. -/
def indexTokens (style : Style) (items : List (Item α)) : List Token :=
  if items = [] then [] else tokens anchor style (sort items)

theorem read_indexTokens {style : Style} (h : PlainName style.headingTag) (items : List (Item α)) :
    read (write (indexTokens anchor style items)) = some (events (indexTokens anchor style items)) := by
  apply read_write
  unfold indexTokens
  split
  · exact nofun
  · exact plain_tokens anchor h _

theorem exists_render {o : Options} (hs : o.separator ≠ []) (rows : List (Row α)) :
    ∃ items, collect o.separator o.escape rows = .ok items ∧
      items.map Item.position = rows.map Row.position ∧
      render anchor o (some mainIndex) rows = .ok (write (indexTokens anchor o.style items)) := by
  obtain ⟨items, hitems⟩ := exists_collect hs o.escape rows
  have hprints : o.prints (some mainIndex) = true := by simp [Options.prints]
  refine ⟨items, hitems, positions_collect hitems, ?_⟩
  rw [render, hprints, hitems]
  cases items with
  | nil => simp [print, indexTokens]
  | cons i items => simp [print, hprints, indexTokens]

/-- The index of at least one row reads back as the tokens that the walk writes, text for text, and
its elements are nested in each other as they have to be. -/
theorem render_nested (o : Options) {rows : List (Row α)} (hrows : rows ≠ [])
    (hs : o.separator ≠ []) (hplain : PlainName o.style.headingTag)
    (hname : o.style.headingTag ∉ ["ul", "li", "a", "div"].map String.toList) :
    ∃ items out es, collect o.separator o.escape rows = .ok items ∧
      render anchor o (some mainIndex) rows = .ok out ∧ read out = some es ∧
      es = events (tokens anchor o.style (sort items)) ∧ Nested fits es := by
  obtain ⟨items, hitems, hpositions, hrender⟩ := exists_render anchor hs rows
  have hne : items ≠ [] := by
    rintro rfl
    exact hrows (List.map_eq_nil_iff.1 hpositions.symm)
  have hsort : sort items ≠ [] := fun hnil ↦ by
    have hlength := (sort_perm items).length_eq
    rw [hnil] at hlength
    exact hne (List.eq_nil_of_length_eq_zero hlength.symm)
  have hfits : fits ["div".toList] o.style.headingTag = true := by
    simp only [List.map_cons, List.map_nil, List.mem_cons, List.not_mem_nil, or_false,
      not_or] at hname
    obtain ⟨hul, hli, ha, hdiv⟩ := hname
    simp only [fits, if_neg hul, if_neg hli, if_neg ha, if_neg hdiv, beq_self_eq_true]
  have htokens : indexTokens anchor o.style items = tokens anchor o.style (sort items) := if_neg hne
  refine ⟨items, _, _, hitems, hrender, read_indexTokens anchor hplain items, by rw [htokens], ?_⟩
  rw [htokens]
  exact nested_tokens anchor hfits hsort

/-- Rows that show more levels than they are sorted by, or fewer, and texts that look like markup. -/
def unalignedRows : List (Row Text) :=
  [⟨"b ! x@".toList, [], "p'1".toList⟩, ⟨"b".toList, "b ! y ! </li><a>&".toList, "p2".toList⟩,
    ⟨"b ! x@ ! k".toList, [], "p3".toList⟩, ⟨"C|textbf".toList, "</ul>".toList, "p4".toList⟩]

def unalignedOptions : Options :=
  ⟨" ! ".toList, defaultEscape, false, ⟨"<Index>".toList, "h2".toList, "' class='x".toList⟩⟩

theorem render_nested_unaligned : unalignedRows ≠ [] ∧ unalignedOptions.separator ≠ [] ∧
    PlainName unalignedOptions.style.headingTag ∧
    unalignedOptions.style.headingTag ∉ ["ul", "li", "a", "div"].map String.toList ∧
    ∃ items out es,
      collect unalignedOptions.separator unalignedOptions.escape unalignedRows = .ok items ∧
      render id unalignedOptions (some mainIndex) unalignedRows = .ok out ∧
      read out = some es ∧ es = events (tokens id unalignedOptions.style (sort items)) ∧
      Nested fits es :=
  ⟨by decide, by decide, by decide, by decide,
    render_nested id unalignedOptions (by decide) (by decide) (by decide) (by decide)⟩

end Xhtml
end BookIndex
