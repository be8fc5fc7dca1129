import BookIndex.Proofs.Xhtml.Tree

namespace BookIndex.Xhtml

open Markup

namespace Depth

def parent : Depth → Depth
  | main | sub => main
  | subsub => sub

def agrees : Depth → Heading → Heading → Bool
  | main => Heading.sameMain
  | sub => Heading.sameSub
  | subsub => Heading.sameAll

theorem agrees_iff (d : Depth) (a b : Heading) :
    d.agrees a b = true ↔ d.upTo a.lower = d.upTo b.lower := by
  cases d <;>
    simp [agrees, upTo, Heading.sameMain, Heading.sameSub, Heading.sameAll, Heading.lower,
      Heading.map, and_assoc]

end Depth

variable {α χ : Type} (anchor : α → Text)

theorem sameSub_eq_false {h k : Heading} (hm : h.sameMain k = false) : h.sameSub k = false := by
  rw [Heading.sameSub, hm, Bool.false_and]

theorem sameAll_eq_false {h k : Heading} (hs : h.sameSub k = false) : h.sameAll k = false := by
  rw [Heading.sameAll, hs, Bool.false_and]

/-- The walk behind the label of the entry of an item. -/
def entered (d : Depth) (i : Item α) : Walk := ⟨d, some (d.upTo i.key), 0⟩

theorem run_links (d : Depth) (own rest : List (Item α)) (h : Heading) (n : Nat)
    (hown : ∀ i ∈ own, i.key.lower = h.lower) : ∃ h' n', h'.lower = h.lower ∧
    Walk.run anchor ⟨d, some h, n⟩ (own ++ rest) =
      links anchor (n + 1) (own.map Item.position) ++ Walk.run anchor ⟨d, some h', n'⟩ rest := by
  induction own generalizing h n with
  | nil => exact ⟨h, n, rfl, rfl⟩
  | cons i own ih =>
    have hi : i.key.lower = h.lower := hown i List.mem_cons_self
    have hsame : i.key.sameAll h = true := (Heading.sameAll_iff _ _).2 hi
    obtain ⟨h', n', hh', hrun⟩ := ih i.key (n + 1) fun j hj ↦
      (hown j (List.mem_cons_of_mem i hj)).trans hi.symm
    refine ⟨h', n', hh'.trans hi, ?_⟩
    simp only [List.cons_append, Walk.run, Walk.step, Walk.same, Option.any_some, hsame, if_true,
      List.map_cons, links, List.append_assoc, hrun]

theorem run_new {w : Walk} {i : Item α} {own : List (Item α)}
    (hnew : w.same Heading.sameAll i.key = false) (hown : ∀ j ∈ own, j.key.lower = i.key.lower)
    (rest : List (Item α)) : ∃ h n, h.lower = i.key.lower ∧
    w.run anchor (i :: own ++ rest) =
      (w.close i.key).1 ++ (w.openAt (w.close i.key).2 i.key i.display).1 ++
        links anchor 1 ((i :: own).map Item.position) ++
          Walk.run anchor ⟨(w.openAt (w.close i.key).2 i.key i.display).2, some h, n⟩ rest := by
  obtain ⟨h, n, hh, hlinks⟩ := run_links anchor (w.openAt (w.close i.key).2 i.key i.display).2
    own rest i.key 1 hown
  refine ⟨h, n, hh, ?_⟩
  rw [List.cons_append, Walk.run, Walk.step, hnew]
  simp only [Bool.false_eq_true, ↓reduceIte, List.map_cons, links, List.append_assoc]
  exact congrArg _ (congrArg _ (congrArg _ hlinks))

theorem openAt_eq (d e : Depth) (last : Option Heading) (n : Nat) :
    Walk.openAt ⟨d, last, n⟩ = Walk.openAt ⟨e, last, n⟩ := rfl

theorem run_sub_leave (rest : List (Item α)) (h : Heading) (n : Nat)
    (hrest : ∀ i ∈ rest.head?, Depth.main.upTo i.key.lower ≠ Depth.main.upTo h.lower) :
    Walk.run anchor ⟨.sub, some h, n⟩ rest =
      closeList rest.isEmpty ++ Walk.run anchor ⟨.main, some h, n⟩ rest := by
  cases rest with
  | nil => rfl
  | cons i rest =>
    have hm : i.key.sameMain h = false :=
      Bool.eq_false_iff.2 fun hs ↦ hrest i rfl ((Depth.agrees_iff .main _ _).1 hs)
    have hs : i.key.sameSub h = false := sameSub_eq_false hm
    have ha : i.key.sameAll h = false := sameAll_eq_false hs
    simp [Walk.run, Walk.step, Walk.same, ha, hm, hs, Walk.close, Walk.closeSubsub, Walk.closeSub,
      Walk.closeMain, closeList, openAt_eq .sub .main]

theorem run_subsub_leave (rest : List (Item α)) (h : Heading) (n : Nat)
    (hrest : ∀ i ∈ rest.head?, Depth.sub.upTo i.key.lower ≠ Depth.sub.upTo h.lower) :
    Walk.run anchor ⟨.subsub, some h, n⟩ rest =
      closeList rest.isEmpty ++ Walk.run anchor ⟨.sub, some h, n⟩ rest := by
  cases rest with
  | nil => rfl
  | cons i rest =>
    have hs : i.key.sameSub h = false :=
      Bool.eq_false_iff.2 fun hs ↦ hrest i rfl ((Depth.agrees_iff .sub _ _).1 hs)
    have ha : i.key.sameAll h = false := sameAll_eq_false hs
    cases hm : i.key.sameMain h <;>
      simp [Walk.run, Walk.step, Walk.same, ha, hs, hm, Walk.close, Walk.closeSubsub,
        Walk.closeSub, Walk.closeMain, closeList, openAt_eq .subsub .sub]

theorem run_leave {d : Depth} (hd : d ≠ .main) (rest : List (Item α)) (h : Heading) (n : Nat)
    (hrest : ∀ i ∈ rest.head?, d.above i.key.lower ≠ d.above h.lower) :
    Walk.run anchor ⟨d, some h, n⟩ rest =
      closeList rest.isEmpty ++ Walk.run anchor ⟨d.parent, some h, n⟩ rest := by
  cases d with
  | main => exact absurd rfl hd
  | sub => exact run_sub_leave anchor rest h n hrest
  | subsub => exact run_subsub_leave anchor rest h n hrest

def opened : Depth → Heading → List Xml.Token × Depth
  | .main => Walk.openSub
  | .sub => fun h ↦ Walk.openSubsub h.subsub
  | .subsub => fun _ ↦ ([], .subsub)

theorem opened_eq_nil {i : Item α} (ha : i.Aligned) {d : Depth}
    (h : i.key.lower = (d.upTo i.key).lower) : opened d i.display = ([], d) := by
  cases d with
  | main =>
    have hs : i.display.sub = [] := ha.sub.2 (Text.lower_eq_nil_iff.1 (congrArg Heading.sub h))
    simp [opened, Walk.openSub, hs]
  | sub =>
    have hs : i.display.subsub = [] :=
      ha.subsub.2 (Text.lower_eq_nil_iff.1 (congrArg Heading.subsub h))
    simp [opened, Walk.openSubsub, hs]
  | subsub => rfl

theorem run_entered {i : Item α} (ha : i.Aligned) (d : Depth) (rest : List (Item α)) :
    Walk.run anchor (entered d i) (i :: rest) = (opened d i.display).1 ++
      link anchor 1 i.position ++ Walk.run anchor ⟨(opened d i.display).2, some i.key, 1⟩ rest := by
  cases h : i.key.sameAll (d.upTo i.key) with
  | true =>
    rw [opened_eq_nil ha ((Heading.sameAll_iff _ _).1 h)]
    simp [Walk.run, Walk.step, Walk.same, entered, h]
  | false =>
    cases d with
    | main =>
      have hm : i.key.sameMain (Depth.main.upTo i.key) = true := (Depth.agrees_iff .main _ _).2 rfl
      simp [Walk.run, Walk.step, Walk.same, entered, h, hm, Walk.close, Walk.closeSubsub,
        Walk.closeSub, Walk.closeMain, Walk.openAt, opened]
    | sub =>
      have hs : i.key.sameSub (Depth.sub.upTo i.key) = true := (Depth.agrees_iff .sub _ _).2 rfl
      simp [Walk.run, Walk.step, Walk.same, entered, h, hs, Walk.close, Walk.closeSubsub,
        Walk.closeSub, Walk.closeMain, Walk.openAt, opened]
    | subsub => exact absurd ((Heading.sameAll_iff i.key i.key).2 rfl) (Bool.eq_false_iff.1 h)

theorem run_next {i : Item α} (ha : i.Aligned) (d : Depth) (rest : List (Item α)) (h : Heading)
    (n : Nat) (habove : d.above i.key.lower = d.above h.lower)
    (hne : d.upTo i.key.lower ≠ d.upTo h.lower) :
    Walk.run anchor ⟨d, some h, n⟩ (i :: rest) = [endItem, newline] ++
      item d.cssClass (d.level i.display) ++ Walk.run anchor (entered d i) (i :: rest) := by
  rw [run_entered anchor ha]
  have hagree : d.agrees i.key h = false :=
    Bool.eq_false_iff.2 fun hs ↦ hne ((d.agrees_iff _ _).1 hs)
  cases d with
  | main =>
    have hm : i.key.sameMain h = false := hagree
    have hs : i.key.sameSub h = false := sameSub_eq_false hm
    have ha : i.key.sameAll h = false := sameAll_eq_false hs
    simp [Walk.run, Walk.step, Walk.same, hm, ha, Walk.close, Walk.closeSubsub,
      Walk.closeSub, Walk.closeMain, Walk.openAt, opened, Depth.cssClass, Depth.level]
  | sub =>
    have hm : i.key.sameMain h = true := (Depth.agrees_iff .main _ _).2 habove
    have hs : i.key.sameSub h = false := hagree
    have ha : i.key.sameAll h = false := sameAll_eq_false hs
    simp [Walk.run, Walk.step, Walk.same, hm, hs, ha, Walk.close, Walk.closeSubsub,
      Walk.closeSub, Walk.closeMain, Walk.openAt, opened, Depth.cssClass, Depth.level]
  | subsub =>
    have hs : i.key.sameSub h = true := (Depth.agrees_iff .sub _ _).2 habove
    have ha : i.key.sameAll h = false := hagree
    simp [Walk.run, Walk.step, Walk.same, hs, ha, Walk.close, Walk.closeSubsub,
      Walk.closeSub, Walk.closeMain, Walk.openAt, opened, Depth.cssClass, Depth.level]

theorem run_open {i : Item α} (ha : i.Aligned) {d : Depth} (hd : d ≠ .main)
    (rest : List (Item α)) (h : Heading) (n : Nat) (habove : d.above i.key.lower = h.lower)
    (hlevel : d.level i.key.lower ≠ []) :
    Walk.run anchor ⟨d.parent, some h, n⟩ (i :: rest) = newline :: list d.cssClass ::
      (item d.cssClass (d.level i.display) ++ Walk.run anchor (entered d i) (i :: rest)) := by
  rw [run_entered anchor ha]
  have hall : i.key.sameAll h = false := by
    refine Bool.eq_false_iff.2 fun hs ↦ hlevel ?_
    rw [(Heading.sameAll_iff _ _).1 hs, ← habove]
    cases d <;> rfl
  cases d with
  | main => exact absurd rfl hd
  | sub =>
    have hm : i.key.sameMain h = true := (Depth.agrees_iff .main _ _).2 <| by
      rw [← habove]
      rfl
    have hshown : i.display.sub ≠ [] := fun hs ↦
      hlevel (Text.lower_eq_nil_iff.2 (ha.sub.1 hs))
    simp [Walk.run, Walk.step, Walk.same, hall, hm, hshown, Depth.parent, Walk.close,
      Walk.closeSubsub, Walk.closeSub, Walk.closeMain, Walk.openAt, Walk.openSub, opened,
      Depth.cssClass, Depth.level]
  | subsub =>
    have hs : i.key.sameSub h = true := (Depth.agrees_iff .sub _ _).2 <| by
      rw [← habove]
      rfl
    have hshown : i.display.subsub ≠ [] := fun hs ↦
      hlevel (Text.lower_eq_nil_iff.2 (ha.subsub.1 hs))
    simp [Walk.run, Walk.step, Walk.same, hall, hs, hshown, Depth.parent, Walk.close,
      Walk.closeSubsub, Walk.closeSub, Walk.closeMain, Walk.openAt, Walk.openSubsub, opened,
      Depth.cssClass, Depth.level]

theorem run_first {i : Item α} (ha : i.Aligned) (rest : List (Item α)) :
    Walk.run anchor .initial (i :: rest) =
      item "main" i.display.main ++ Walk.run anchor (entered .main i) (i :: rest) := by
  rw [run_entered anchor ha]
  simp [Walk.run, Walk.step, Walk.same, Walk.initial, Walk.close, Walk.openAt, opened]

end BookIndex.Xhtml
