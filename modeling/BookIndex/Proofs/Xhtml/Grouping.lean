import BookIndex.Proofs.Xhtml.Walk

namespace BookIndex.Xhtml

open Markup

namespace Depth

theorem upTo_upTo (d : Depth) (h : Heading) : d.upTo (d.upTo h) = d.upTo h := by
  cases d <;> rfl

theorem upTo_parent {d : Depth} (hd : d ≠ .main) (h : Heading) : d.parent.upTo h = d.above h := by
  cases d with
  | main => exact absurd rfl hd
  | sub => rfl
  | subsub => rfl

theorem nextLevel_parent {d : Depth} (hd : d ≠ .main) (h : Heading) :
    d.parent.nextLevel h = d.level h := by
  cases d with
  | main => exact absurd rfl hd
  | sub => rfl
  | subsub => rfl

end Depth

variable {α χ : Type}

theorem Item.Aligned.nextLevel_eq_nil_iff {i : Item α} (ha : i.Aligned) (d : Depth) :
    d.nextLevel i.key.lower = [] ↔ i.key.lower = d.upTo i.key.lower := by
  cases d with
  | main =>
    have hn : Text.lower i.key.sub = [] → Text.lower i.key.subsub = [] := fun h ↦
      Text.lower_eq_nil_iff.2 (ha.nested (Text.lower_eq_nil_iff.1 h))
    simpa [Depth.nextLevel, Depth.upTo, Heading.lower, Heading.map] using hn
  | sub => simp [Depth.nextLevel, Depth.upTo, Heading.lower, Heading.map]
  | subsub => simp [Depth.nextLevel, Depth.upTo]

variable (anchor : α → Text)

/-- Below the label of an entry at a depth, the walk writes the items that have a further level as
`below` writes their entries. -/
def Prints (d : Depth) (below : Bool → List χ → List Xml.Token)
    (children : List (Item α) → List χ) : Prop :=
  ∀ (h : Heading) (n : Nat) (items rest : List (Item α)), d.upTo h.lower = h.lower →
    (∀ i ∈ items, i.Aligned ∧ d.upTo i.key.lower = h.lower ∧ d.nextLevel i.key.lower ≠ []) →
    (∀ i ∈ rest.head?, d.upTo i.key.lower ≠ h.lower) →
    ∃ h' n', d.upTo h'.lower = h.lower ∧
      Walk.run anchor ⟨d, some h, n⟩ (sort items ++ rest) =
        below rest.isEmpty (children items) ++ Walk.run anchor ⟨d, some h', n'⟩ rest

theorem prints_subsub : Prints anchor .subsub (fun _ _ ↦ []) (fun _ ↦ ([] : List Empty)) := by
  intro h n items rest hh hitems hrest
  cases items with
  | nil => exact ⟨h, n, hh, by rw [sort_nil]; rfl⟩
  | cons i items => exact absurd rfl (hitems i List.mem_cons_self).2.2

variable {anchor} {d : Depth} {below : Bool → List χ → List Xml.Token}
  {children : List (Item α) → List χ}

theorem run_node (hp : Prints anchor d below children) {q : Heading} {items : List (Item α)}
    {i : Item α} (hhead : (sort items).head? = some i)
    (hitems : ∀ j ∈ items, j.Aligned ∧ d.upTo j.key.lower = q) (rest : List (Item α))
    (hrest : ∀ j ∈ rest.head?, d.upTo j.key.lower ≠ q) : ∃ h' n', d.upTo h'.lower = q ∧
      item d.cssClass (d.level i.display) ++ Walk.run anchor (entered d i) (sort items ++ rest) =
        nodeTokens anchor d below rest.isEmpty (node d children items) ++
          Walk.run anchor ⟨d, some h', n'⟩ rest := by
  have hi : d.upTo i.key.lower = q := (hitems i (mem_sort.1 (List.mem_of_head? hhead))).2
  have hq : (d.upTo i.key).lower = q := by rw [← Depth.upTo_lower, hi]
  have hqq : d.upTo q = q := by rw [← hi, Depth.upTo_upTo]
  have hsort : sort items = withKey q items ++ sort (items.filter fun j ↦ j.key.lower ≠ q) :=
    sort_eq_append fun j hj ↦ (hitems j hj).2 ▸ Depth.order_upTo_le d j.key.lower
  have hown : items.filter (fun j ↦ d.nextLevel j.key.lower = []) = withKey q items := by
    refine List.filter_congr fun j hj ↦ ?_
    rw [decide_eq_decide, (hitems j hj).1.nextLevel_eq_nil_iff, (hitems j hj).2]
  have hkids : items.filter (fun j ↦ d.nextLevel j.key.lower ≠ []) =
      items.filter fun j ↦ j.key.lower ≠ q := by
    refine List.filter_congr fun j hj ↦ ?_
    rw [decide_eq_decide, ne_eq, (hitems j hj).1.nextLevel_eq_nil_iff, (hitems j hj).2]
  obtain ⟨h₁, n₁, hh₁, hlinks⟩ := run_links anchor d (withKey q items)
    (sort (items.filter fun j ↦ j.key.lower ≠ q) ++ rest) (d.upTo i.key) 0
    fun j hj ↦ (mem_withKey.1 hj).2.trans hq.symm
  rw [hq] at hh₁
  obtain ⟨h₂, n₂, hh₂, hbelow⟩ := hp h₁ n₁ (items.filter fun j ↦ j.key.lower ≠ q) rest
    (by rw [hh₁, hqq])
    (fun j hj ↦ by
      obtain ⟨hj, hne⟩ := List.mem_filter.1 hj
      obtain ⟨ha, hu⟩ := hitems j hj
      refine ⟨ha, hu.trans hh₁.symm, fun hnil ↦ of_decide_eq_true hne ?_⟩
      rw [(ha.nextLevel_eq_nil_iff d).1 hnil, hu])
    (by rwa [hh₁])
  refine ⟨h₂, n₂, hh₂.trans hh₁, ?_⟩
  have hlabel : label d items = d.level i.display := by rw [label, hhead]; rfl
  rw [hsort, List.append_assoc, entered, hlinks, hbelow, nodeTokens, node, hown, hkids, hlabel]
  simp only [List.append_assoc]

def keyRun (d : Depth) (items : List (Item α)) (k : Text) : List (Item α) :=
  sort (items.filter fun i ↦ d.level i.key.lower = k)

theorem sort_eq_keyRuns {items : List (Item α)} {q : Heading}
    (h : ∀ i ∈ items, d.above i.key.lower = q) :
    sort items = (ascending (items.map fun i ↦ d.level i.key.lower)).flatMap (keyRun d items) :=
  sort_eq_flatMap d.level fun a ha b hb hab ↦
    Depth.level_le ((h a ha).trans (h b hb).symm) ((Item.le_iff a b).1 hab)

theorem run_key (hp : Prints anchor d below children) {q : Heading} {items : List (Item α)}
    (hitems : ∀ i ∈ items, i.Aligned ∧ d.above i.key.lower = q) {k : Text}
    (hmem : ∃ i ∈ items, d.level i.key.lower = k) :
    ∃ i ∈ items, d.level i.key.lower = k ∧ ∃ tail, keyRun d items k = i :: tail ∧
      ∀ rest : List (Item α),
        (∀ j ∈ rest.head?, d.above j.key.lower = q → d.level j.key.lower ≠ k) →
        ∃ h n, d.above h.lower = q ∧ d.level h.lower = k ∧
          item d.cssClass (d.level i.display) ++ Walk.run anchor (entered d i) (i :: tail ++ rest) =
            nodeTokens anchor d below rest.isEmpty
              (node d children (items.filter fun i ↦ d.level i.key.lower = k)) ++
            Walk.run anchor ⟨d, some h, n⟩ rest := by
  obtain ⟨j, hj, hjk⟩ := hmem
  have hne : keyRun d items k ≠ [] :=
    List.ne_nil_of_mem (mem_sort.2 (List.mem_filter.2 ⟨hj, decide_eq_true hjk⟩))
  obtain ⟨i, tail, hrun⟩ := List.exists_cons_of_ne_nil hne
  have hi : i ∈ keyRun d items k := hrun ▸ List.mem_cons_self
  rw [keyRun, mem_sort, List.mem_filter, decide_eq_true_eq] at hi
  obtain ⟨hi, hik⟩ := hi
  have hagree : ∀ h : Heading,
      d.upTo h = d.upTo i.key.lower ↔ d.above h = q ∧ d.level h = k := fun h ↦ by
    rw [Depth.upTo_eq_iff, (hitems i hi).2, hik]
  refine ⟨i, hi, hik, tail, hrun, fun rest hrest ↦ ?_⟩
  have hhead : (keyRun d items k).head? = some i := by rw [hrun, List.head?_cons]
  obtain ⟨h, n, hh, hwalk⟩ := run_node hp (q := d.upTo i.key.lower) hhead
    (fun j hj ↦ by
      obtain ⟨hj, hjk⟩ := List.mem_filter.1 hj
      exact ⟨(hitems j hj).1, (hagree _).2 ⟨(hitems j hj).2, of_decide_eq_true hjk⟩⟩)
    rest (fun j hj hu ↦ by
      obtain ⟨ha, hl⟩ := (hagree _).1 hu
      exact hrest j hj ha hl)
  obtain ⟨ha, hl⟩ := (hagree _).1 hh
  refine ⟨h, n, ha, hl, ?_⟩
  rw [← hrun]
  exact hwalk

/-- The walk writes the items that agree above a depth as the items of one list. -/
theorem run_siblings (hp : Prints anchor d below children) {q : Heading} {items : List (Item α)}
    (hitems : ∀ i ∈ items, i.Aligned ∧ d.above i.key.lower = q) (rest : List (Item α))
    (hrest : ∀ i ∈ rest.head?, d.above i.key.lower ≠ q) (k : Text) (ks : List Text)
    (hnodup : (k :: ks).Nodup) (hmem : ∀ j ∈ k :: ks, ∃ i ∈ items, d.level i.key.lower = j) :
    ∃ i ∈ items, d.level i.key.lower = k ∧ ∃ tail, (k :: ks).flatMap (keyRun d items) = i :: tail ∧
      ∃ h n, d.above h.lower = q ∧
        item d.cssClass (d.level i.display) ++ Walk.run anchor (entered d i) (i :: tail ++ rest) =
          siblings (nodeTokens anchor d below) rest.isEmpty ((k :: ks).map fun j ↦
            node d children (items.filter fun i ↦ d.level i.key.lower = j)) ++
          Walk.run anchor ⟨d, some h, n⟩ rest := by
  induction ks generalizing k with
  | nil =>
    obtain ⟨i, hi, hk, tail, hrun, hwalk⟩ := run_key hp hitems (hmem k List.mem_cons_self)
    obtain ⟨h, n, hh, -, hw⟩ := hwalk rest fun j hj ha ↦ absurd ha (hrest j hj)
    exact ⟨i, hi, hk, tail, by rw [List.flatMap_singleton, hrun], h, n, hh, hw⟩
  | cons k' ks ih =>
    rw [List.nodup_cons] at hnodup
    obtain ⟨i', hi', hk', tail', hrun', h', n', hh', hw'⟩ :=
      ih k' hnodup.2 fun j hj ↦ hmem j (List.mem_cons_of_mem k hj)
    obtain ⟨i, hi, hk, tail, hrun, hwalk⟩ := run_key hp hitems (hmem k List.mem_cons_self)
    have hkk : k' ≠ k := fun he ↦ hnodup.1 (he ▸ List.mem_cons_self)
    obtain ⟨h, n, ha, hl, hw⟩ := hwalk (i' :: tail' ++ rest) <| by
      rintro j hj -
      cases hj
      rwa [hk']
    have hnext := run_next anchor (hitems i' hi').1 d (tail' ++ rest) h n
      ((hitems i' hi').2.trans ha.symm) (fun hu ↦ by
        rw [Depth.upTo_eq_iff, hk', hl] at hu
        exact hkk hu.2)
    refine ⟨i, hi, hk, tail ++ i' :: tail', ?_, h', n', hh', ?_⟩
    · rw [List.flatMap_cons, hrun, hrun', List.cons_append]
    · have hassoc : i :: (tail ++ i' :: tail') ++ rest = i :: tail ++ (i' :: tail' ++ rest) := by
        simp only [List.cons_append, List.append_assoc]
      rw [hassoc, hw, List.cons_append, hnext, ← List.cons_append, List.append_assoc _ (item _ _),
        hw']
      simp only [List.map_cons, siblings, List.append_assoc]
      rfl

theorem prints_list (hd : d ≠ .main) (hp : Prints anchor d below children) :
    Prints anchor d.parent (listTokens anchor d below) (nodes d children) := by
  intro h n items rest hh hitems hrest
  rw [Depth.upTo_parent hd] at hh
  have hitems : ∀ i ∈ items, (i.Aligned ∧ d.above i.key.lower = h.lower) ∧
      d.level i.key.lower ≠ [] := by
    intro i hi
    have hi := hitems i hi
    rw [Depth.upTo_parent hd, Depth.nextLevel_parent hd] at hi
    exact ⟨⟨hi.1, hi.2.1⟩, hi.2.2⟩
  have hrest : ∀ i ∈ rest.head?, d.above i.key.lower ≠ h.lower := fun i hi ↦ by
    have hi := hrest i hi
    rwa [Depth.upTo_parent hd] at hi
  have hmem : ∀ j ∈ ascending (items.map fun i ↦ d.level i.key.lower),
      ∃ i ∈ items, d.level i.key.lower = j := fun j hj ↦ List.mem_map.1 (mem_ascending.1 hj)
  have hnodup := ascending_nodup (items.map fun i ↦ d.level i.key.lower)
  rw [sort_eq_keyRuns fun i hi ↦ (hitems i hi).1.2, nodes]
  cases hks : ascending (items.map fun i ↦ d.level i.key.lower) with
  | nil =>
    refine ⟨h, n, ?_, rfl⟩
    rwa [Depth.upTo_parent hd]
  | cons k ks =>
    rw [hks] at hmem hnodup
    obtain ⟨i, hi, -, tail, hrun, h', n', hh', hw⟩ :=
      run_siblings hp (fun i hi ↦ (hitems i hi).1) rest hrest k ks hnodup hmem
    refine ⟨h', n', (Depth.upTo_parent hd _).trans hh', ?_⟩
    rw [List.cons_append] at hw
    rw [hrun, List.cons_append, run_open anchor (hitems i hi).1.1 hd _ h n (hitems i hi).1.2
      (hitems i hi).2, hw, run_leave anchor hd rest h' n' fun j hj ↦ by rw [hh']; exact hrest j hj]
    simp only [List.map_cons, listTokens, List.cons_append, List.append_assoc]

theorem tokens_sort (style : Style) {items : List (Item α)} (ha : ∀ i ∈ items, i.Aligned) :
    tokens anchor style (sort items) = treeTokens anchor style (tree items) := by
  have hsub : Prints anchor .sub (subsubTokens anchor) subsubNodes :=
    prints_list (d := .subsub) nofun (prints_subsub anchor)
  have hmain : Prints anchor .main (subTokens anchor) subNodes := prints_list (d := .sub) nofun hsub
  have hitems : ∀ i ∈ items, i.Aligned ∧ Depth.main.above i.key.lower = ⟨[], [], []⟩ :=
    fun i hi ↦ ⟨ha i hi, rfl⟩
  have hrun : Walk.initial.run anchor (sort items) =
      siblings (nodeTokens anchor .main (subTokens anchor)) true (tree items) ++
        closeList true := by
    have hmem : ∀ j ∈ ascending (items.map fun i ↦ Depth.main.level i.key.lower),
        ∃ i ∈ items, Depth.main.level i.key.lower = j := fun j hj ↦
      List.mem_map.1 (mem_ascending.1 hj)
    have hnodup := ascending_nodup (items.map fun i ↦ Depth.main.level i.key.lower)
    rw [sort_eq_keyRuns (d := .main) fun i hi ↦ (hitems i hi).2, tree, nodes]
    cases hks : ascending (items.map fun i ↦ Depth.main.level i.key.lower) with
    | nil => rfl
    | cons k ks =>
      rw [hks] at hmem hnodup
      obtain ⟨i, hi, -, tail, hcons, h, n, -, hw⟩ :=
        run_siblings hmain hitems [] nofun k ks hnodup hmem
      rw [hcons, run_first anchor (ha i hi)]
      rw [List.append_nil] at hw
      exact hw
  rw [tokens, treeTokens, hrun]
  simp only [List.append_assoc]

theorem exists_subentries {separator : Text} (hs : separator ≠ []) (entry : Text) :
    ∃ h, subentries separator entry = .ok h := by
  unfold subentries
  rw [if_neg (by simpa using hs : ¬separator.isEmpty = true)]
  split
  · exact ⟨_, rfl⟩
  · split
    · exact ⟨_, rfl⟩
    · split
      · exact ⟨_, rfl⟩
      · exact ⟨_, rfl⟩

theorem exists_collect {separator : Text} (hs : separator ≠ []) (esc : Text)
    (rows : List (Row α)) : ∃ items, collect separator esc rows = .ok items := by
  induction rows with
  | nil => exact ⟨[], rfl⟩
  | cons row rows ih =>
    obtain ⟨items, hrows⟩ := ih
    obtain ⟨markup, hm⟩ := exists_subentries hs row.markup
    obtain ⟨plain, hp⟩ := exists_subentries hs row.plain
    unfold collect at hrows ⊢
    rw [List.mapM_cons, hrows, Item.ofRow, hm, hp]
    exact ⟨_, rfl⟩

end BookIndex.Xhtml
