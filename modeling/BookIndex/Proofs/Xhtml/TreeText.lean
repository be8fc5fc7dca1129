import BookIndex.Proofs.Xhtml.Grouping
import BookIndex.Proofs.Xml.Id

namespace BookIndex.Xhtml

open Markup

section

variable {α χ β : Type} (anchor : α → Text)

def linksText (n : ℕ) : List α → Text
  | [] => []
  | p :: ps =>
    (if n = 1 then ": <a href='#" else ", <a href='#").toList ++ Xml.escapeAttr (anchor p) ++
      "'>".toList ++ Text.ofNat n ++ "</a>".toList ++ linksText (n + 1) ps

/-- An entry up to the end of its item, given how the entries below are written. -/
def nodeText (opening : String) (below : Bool → List χ → Text) (final : Bool) (n : Node α χ) :
    Text :=
  opening.toList ++ Xml.escape n.label ++ linksText anchor 1 n.links ++ below final n.children

def siblingsText (write : Bool → β → Text) (final : Bool) : List β → Text
  | [] => []
  | [n] => write final n
  | n :: m :: ns => write false n ++ "</li>\n".toList ++ siblingsText write final (m :: ns)

def listText (opening : String) (write : Bool → Node α χ → Text) (final : Bool) :
    List (Node α χ) → Text
  | [] => []
  | ns => opening.toList ++ siblingsText write final ns ++
      (if final then "</li></ul>\n" else "</li>\n</ul>\n").toList

def subsubText : Bool → List (SubsubNode α) → Text :=
  listText "\n<ul class='subsubentry'>" (nodeText anchor "<li class='subsubentry'>" fun _ _ ↦ [])

def subText : Bool → List (SubNode α) → Text :=
  listText "\n<ul class='subentry'>" (nodeText anchor "<li class='subentry'>" (subsubText anchor))

def frontText (style : Style) : Text :=
  "<div class='index ".toList ++ Xml.escapeAttr style.cssClass ++ "'>".toList ++ "\n".toList ++
    "<".toList ++ style.headingTag ++ ">".toList ++ Xml.escape style.heading ++
    "</".toList ++ style.headingTag ++ ">".toList ++ "\n".toList ++
    "<ul class='main'>".toList ++ "\n".toList

/-- The index of a tree, as it is written. -/
def treeText (style : Style) (ns : List (MainNode α)) : Text :=
  frontText style ++ siblingsText (nodeText anchor "<li class='main'>" (subText anchor)) true ns ++
    "</li></ul>\n</div>\n".toList

variable {anchor}

theorem write_siblings {tokens : Bool → β → List Xml.Token} {text : Bool → β → Text}
    (h : ∀ final n, Xml.write (tokens final n) = text final n) (final : Bool) (ns : List β) :
    Xml.write (siblings tokens final ns) = siblingsText text final ns := by
  have hbetween : Xml.write [endItem, newline] = "</li>\n".toList := rfl
  match ns with
  | [] => rfl
  | [n] => exact h final n
  | n :: m :: ns =>
    rw [siblings, siblingsText, Xml.write_append, Xml.write_append, h, hbetween,
      write_siblings h final (m :: ns)]

theorem escape_ofNat (n : ℕ) : Xml.escape (Text.ofNat n) = Text.ofNat n := by
  have hdigit : ∀ c ∈ Text.ofNat n, Xml.escapeChar c = [c] := by
    intro c hc
    have hc := Text.isDigit_of_mem_ofNat hc
    unfold Xml.escapeChar
    split
    · cases hc
    · cases hc
    · cases hc
    · rfl
  rw [Xml.escape, List.flatMap_congr hdigit]
  exact List.flatMap_singleton' _

theorem write_link (n : ℕ) (p : α) :
    Xml.write (link anchor n p) =
      (if n = 1 then ": <a href='#" else ", <a href='#").toList ++ Xml.escapeAttr (anchor p) ++
        "'>".toList ++ Text.ofNat n ++ "</a>".toList := by
  have hhref : Xml.escapeAttr ('#' :: anchor p) = '#' :: Xml.escapeAttr (anchor p) := rfl
  simp only [link, Xml.write_cons, Xml.write_nil, Xml.Token.write, Xml.writeAttrs,
    List.flatMap_cons, List.flatMap_nil, hhref, escape_ofNat]
  split <;> simp [Xml.escape, Xml.escapeChar, quote]

theorem write_links (n : ℕ) (ps : List α) :
    Xml.write (links anchor n ps) = linksText anchor n ps := by
  induction ps generalizing n with
  | nil => rfl
  | cons p ps ih => rw [links, linksText, Xml.write_append, ih, write_link]

theorem write_node {d : Depth} {opening : String} {below : Bool → List χ → List Xml.Token}
    {belowText : Bool → List χ → Text}
    (hopening : Xml.Token.write
      (.start "li".toList [("class".toList, d.cssClass.toList)] quote) = opening.toList)
    (h : ∀ final ns, Xml.write (below final ns) = belowText final ns) (final : Bool)
    (n : Node α χ) :
    Xml.write (nodeTokens anchor d below final n) = nodeText anchor opening belowText final n := by
  have hitem : Xml.write (item d.cssClass n.label) = opening.toList ++ Xml.escape n.label := by
    rw [item, Xml.write_cons, Xml.write_cons, Xml.write_nil, List.append_nil, hopening, Xml.Token.write]
  rw [nodeTokens, nodeText, Xml.write_append, Xml.write_append, hitem, write_links, h]

theorem write_list {d : Depth} {opening : String} {below : Bool → List χ → List Xml.Token}
    {text : Bool → Node α χ → Text}
    (hopening : Xml.write [newline, list d.cssClass] = opening.toList)
    (h : ∀ final n, Xml.write (nodeTokens anchor d below final n) = text final n) (final : Bool)
    (ns : List (Node α χ)) :
    Xml.write (listTokens anchor d below final ns) = listText opening text final ns := by
  have hclose : Xml.write (closeList final) =
      (if final then "</li></ul>\n" else "</li>\n</ul>\n").toList := by
    cases final <;> rfl
  cases ns with
  | nil => rfl
  | cons n ns =>
    have hopen (tokens : List Xml.Token) : Xml.write (newline :: list d.cssClass :: tokens) =
        opening.toList ++ Xml.write tokens := by
      rw [← hopening, ← Xml.write_append]
      rfl
    rw [listTokens, listText, Xml.write_append, hopen, write_siblings h, hclose]
    · exact List.cons_ne_nil n ns
    · exact List.cons_ne_nil n ns

theorem write_subsub (final : Bool) (ns : List (SubsubNode α)) :
    Xml.write (subsubTokens anchor final ns) = subsubText anchor final ns :=
  write_list rfl (write_node rfl fun _ _ ↦ rfl) final ns

theorem write_sub (final : Bool) (ns : List (SubNode α)) :
    Xml.write (subTokens anchor final ns) = subText anchor final ns :=
  write_list rfl (write_node rfl write_subsub) final ns

theorem write_front (style : Style) :
    Xml.write [.start "div".toList [("class".toList, "index ".toList ++ style.cssClass)] quote,
      newline, .start style.headingTag [] ['"'], .data style.heading, .finish style.headingTag,
      newline, list "main", newline] = frontText style := by
  have hclass : Xml.escapeAttr ("index ".toList ++ style.cssClass) =
      "index ".toList ++ Xml.escapeAttr style.cssClass := List.flatMap_append
  have hdiv : Xml.Token.write
      (.start "div".toList [("class".toList, "index ".toList ++ style.cssClass)] quote) =
        "<div class='index ".toList ++ (Xml.escapeAttr style.cssClass ++ "'>".toList) := by
    simp only [Xml.Token.write, Xml.writeAttrs, List.flatMap_cons, List.flatMap_nil, hclass,
      List.append_assoc, List.append_nil]
    rfl
  have hstart : Xml.Token.write (.start style.headingTag [] ['"']) =
      "<".toList ++ (style.headingTag ++ ">".toList) := by
    rw [Xml.Token.write, Xml.writeAttrs, List.flatMap_nil, List.append_nil]
    rfl
  have hfinish : Xml.Token.write (.finish style.headingTag) =
      "</".toList ++ (style.headingTag ++ ">".toList) := rfl
  have hdata : Xml.Token.write (.data style.heading) = Xml.escape style.heading := rfl
  have hnewline : newline.write = "\n".toList := rfl
  have hlist : (list "main").write = "<ul class='main'>".toList := rfl
  simp only [Xml.write_cons, Xml.write_nil, hdiv, hstart, hfinish, hdata, hnewline, hlist,
    List.append_assoc, List.append_nil]
  delta frontText
  simp only [List.append_assoc]

theorem write_treeTokens (style : Style) (ns : List (MainNode α)) :
    Xml.write (treeTokens anchor style ns) = treeText anchor style ns := by
  have hend : Xml.write (closeList true ++ [.finish "div".toList, newline]) =
      "</li></ul>\n</div>\n".toList := rfl
  have hmain (final : Bool) (n : MainNode α) :
      Xml.write (nodeTokens anchor .main (subTokens anchor) final n) =
        nodeText anchor "<li class='main'>" (subText anchor) final n :=
    write_node rfl write_sub final n
  rw [treeTokens, List.append_assoc, Xml.write_append, hend, Xml.write_append, write_front,
    write_siblings hmain]
  delta treeText
  rw [List.append_assoc]

end

/-- With a separator that is not empty every row is collected, and the walk over the sorted items
writes the tree of the items, if every item shows the levels that it is sorted by. -/
theorem write_sorted_collect {α : Type} (anchor : α → Text) (style : Style) (separator esc : Text)
    (rows : List (Row α)) :
    (separator ≠ [] → ∃ items, collect separator esc rows = .ok items) ∧
      ∀ items, collect separator esc rows = .ok items → (∀ i ∈ items, i.Aligned) →
        Xml.write (tokens anchor style (sort items)) = treeText anchor style (tree items) := by
  refine ⟨fun hs ↦ exists_collect hs esc rows, fun items _ ha ↦ ?_⟩
  rw [tokens_sort style ha, write_treeTokens]

def nestedRows : List (Row ℕ) :=
  [⟨"Beta ! x|textbf".toList, [], 1⟩, ⟨"alpha & b".toList, [], 2⟩,
    ⟨"beta".toList, "Beta".toList, 3⟩, ⟨"BETA ! X ! z@Y".toList, [], 4⟩, ⟨"beta ! x".toList, [], 5⟩]

def nestedItems : List (Item ℕ) :=
  [⟨⟨"Beta".toList, "x".toList, []⟩, ⟨"Beta".toList, "x".toList, []⟩, 1⟩,
    ⟨⟨"alpha & b".toList, [], []⟩, ⟨"alpha & b".toList, [], []⟩, 2⟩,
    ⟨⟨"beta".toList, [], []⟩, ⟨"Beta".toList, [], []⟩, 3⟩,
    ⟨⟨"BETA".toList, "X".toList, "z".toList⟩, ⟨"BETA".toList, "X".toList, "Y".toList⟩, 4⟩,
    ⟨⟨"beta".toList, "x".toList, []⟩, ⟨"beta".toList, "x".toList, []⟩, 5⟩]

def nestedText : Text := List.flatten
  ["<div class='index tocentry'>\n".toList, "<h2>Index</h2>\n".toList,
    "<ul class='main'>\n".toList,
    "<li class='main'>alpha &amp; b: <a href='#2'>1</a>".toList, "</li>\n".toList,
    "<li class='main'>Beta: <a href='#3'>1</a>\n".toList,
    "<ul class='subentry'><li class='subentry'>x".toList,
    ": <a href='#1'>1</a>, <a href='#5'>2</a>\n".toList,
    "<ul class='subsubentry'><li class='subsubentry'>Y".toList,
    ": <a href='#4'>1</a></li></ul>\n".toList, "</li></ul>\n</li></ul>\n</div>\n".toList]

theorem tree_nestedItems : tree nestedItems =
    [⟨"alpha & b".toList, [2], []⟩,
      ⟨"Beta".toList, [3], [⟨"x".toList, [1, 5], [⟨"Y".toList, [4], []⟩]⟩]⟩] := by
  simp only [tree, subNodes, subsubNodes, nodes, node, label, ascending,
    Text.mergeSort_eq_insertionSort, sort_eq_insertionSort]
  rfl

theorem write_sorted_collect_nested :
    collect " ! ".toList defaultEscape nestedRows = .ok nestedItems ∧
      (∀ i ∈ nestedItems, i.Aligned) ∧
      Xml.write (tokens Text.ofNat ⟨"Index".toList, "h2".toList, "tocentry".toList⟩
        (sort nestedItems)) = nestedText := by
  have hc : collect " ! ".toList defaultEscape nestedRows = .ok nestedItems := rfl
  have ha : ∀ i ∈ nestedItems, i.Aligned := by decide
  have htree := (write_sorted_collect Text.ofNat ⟨"Index".toList, "h2".toList, "tocentry".toList⟩
    " ! ".toList defaultEscape nestedRows).2 nestedItems hc ha
  refine ⟨hc, ha, htree.trans ?_⟩
  rw [tree_nestedItems]
  decide +kernel

end BookIndex.Xhtml
