import BookIndex.Xhtml.Item
import Mathlib.Data.Char
import Mathlib.Data.List.Lex
import Mathlib.Data.Prod.Lex
import Mathlib.Data.List.Dedup
import Mathlib.Data.List.Sort

namespace BookIndex

theorem Text.le_iff (s t : Text) : Text.le s t = true ↔ s ≤ t := by
  rw [← not_lt]
  induction s generalizing t with
  | nil => simp [Text.le]
  | cons a s ih =>
    cases t with
    | nil => simp [Text.le]
    | cons b t =>
      have hlt : a.toNat < b.toNat ↔ a < b := Iff.rfl
      rw [List.cons_lt_cons_iff, not_or, not_and, ← ih t, Text.le, Bool.or_eq_true,
        Bool.and_eq_true, decide_eq_true_eq, beq_iff_eq, hlt]
      rcases lt_trichotomy a b with h | rfl | h
      · simp [h, h.not_gt, h.ne']
      · simp
      · simp [h, h.not_gt, h.ne']

instance : IsTrans Text (Text.le · · = true) where
  trans a b c hab hbc :=
    (Text.le_iff a c).2 (((Text.le_iff a b).1 hab).trans ((Text.le_iff b c).1 hbc))

instance : Std.Total (α := Text) (Text.le · · = true) where
  total a b := (LinearOrder.le_total a b).imp (Text.le_iff a b).2 (Text.le_iff b a).2

instance : Std.Antisymm (α := Text) (Text.le · · = true) where
  antisymm a b hab hba := le_antisymm ((Text.le_iff a b).1 hab) ((Text.le_iff b a).1 hba)

theorem Text.mergeSort_eq_insertionSort (ks : List Text) :
    ks.mergeSort Text.le = ks.insertionSort (Text.le · · = true) := by
  rw [← List.mergeSort_eq_insertionSort]
  simp only [Bool.decide_eq_true]

namespace Markup.Heading

def order (h : Heading) : Text ×ₗ Text ×ₗ Text := toLex (h.main, toLex (h.sub, h.subsub))

theorem order_injective : Function.Injective order := by
  intro h k hk
  cases h
  cases k
  cases hk
  rfl

theorem le_iff (h k : Heading) : h.le k = true ↔ h.order ≤ k.order := by
  unfold le order
  rw [Prod.Lex.toLex_le_toLex, Prod.Lex.toLex_le_toLex]
  by_cases hm : h.main = k.main
  · by_cases hs : h.sub = k.sub
    · simp [hm, hs, Text.le_iff]
    · simp [hm, hs, Text.le_iff, lt_iff_le_and_ne]
  · simp [hm, Text.le_iff, lt_iff_le_and_ne]

end Markup.Heading

namespace Xhtml

open Markup

variable {α : Type} {items : List (Item α)}

theorem Item.le_iff (a b : Item α) : a.le b = true ↔ a.key.lower.order ≤ b.key.lower.order :=
  Heading.le_iff _ _

theorem Item.le_trans (a b c : Item α) (hab : a.le b = true) (hbc : b.le c = true) :
    a.le c = true :=
  (Item.le_iff a c).2 (((Item.le_iff a b).1 hab).trans ((Item.le_iff b c).1 hbc))

theorem Item.le_total (a b : Item α) : (a.le b || b.le a) = true := by
  rw [Bool.or_eq_true, Item.le_iff, Item.le_iff]
  exact LinearOrder.le_total _ _

theorem Item.le_of_key_eq {a b : Item α} (h : a.key.lower = b.key.lower) : a.le b = true :=
  (Item.le_iff a b).2 (h ▸ le_rfl)

theorem Item.key_eq_of_le {a b : Item α} (hab : a.le b = true) (hba : b.le a = true) :
    a.key.lower = b.key.lower :=
  Heading.order_injective (le_antisymm ((Item.le_iff a b).1 hab) ((Item.le_iff b a).1 hba))

theorem pairwise_sort (items : List (Item α)) : (sort items).Pairwise (·.le · = true) :=
  List.pairwise_mergeSort Item.le_trans Item.le_total items

theorem sort_perm (items : List (Item α)) : (sort items).Perm items :=
  List.mergeSort_perm items Item.le

@[simp] theorem sort_nil : sort ([] : List (Item α)) = [] := List.mergeSort_nil

theorem mem_sort {i : Item α} : i ∈ sort items ↔ i ∈ items := (sort_perm items).mem_iff

def withKey (v : Heading) (items : List (Item α)) : List (Item α) :=
  items.filter fun i ↦ i.key.lower = v

theorem mem_withKey {v : Heading} {i : Item α} :
    i ∈ withKey v items ↔ i ∈ items ∧ i.key.lower = v := by
  simp [withKey]

theorem withKey_cons_of_eq {v : Heading} {i : Item α} (h : i.key.lower = v) :
    withKey v (i :: items) = i :: withKey v items :=
  List.filter_cons_of_pos (decide_eq_true h)

theorem withKey_cons_of_ne {v : Heading} {i : Item α} (h : i.key.lower ≠ v) :
    withKey v (i :: items) = withKey v items :=
  List.filter_cons_of_neg (by simpa using h)

theorem exists_withKey_eq_cons {v : Heading} (h : ∃ i ∈ items, i.key.lower = v) :
    ∃ i own, withKey v items = i :: own ∧ i.key.lower = v ∧
      ∀ j ∈ own, j.key.lower = i.key.lower := by
  obtain ⟨j, hj, hv⟩ := h
  obtain ⟨i, own, hrun⟩ := List.exists_cons_of_ne_nil (List.ne_nil_of_mem (mem_withKey.2 ⟨hj, hv⟩))
  have hkey : ∀ j ∈ i :: own, j.key.lower = v := fun j hj ↦ (mem_withKey.1 (hrun ▸ hj)).2
  have hi : i.key.lower = v := hkey i List.mem_cons_self
  exact ⟨i, own, hrun, hi, fun j hj ↦ (hkey j (List.mem_cons_of_mem i hj)).trans hi.symm⟩

theorem pairwise_of_key_eq {v : Heading} (h : ∀ i ∈ items, i.key.lower = v) :
    items.Pairwise (·.le · = true) :=
  List.pairwise_of_forall_mem_list fun a ha b hb ↦
    Item.le_of_key_eq ((h a ha).trans (h b hb).symm)

/-- A rearrangement of items keeps the run of a key if it does not change the order within it. -/
theorem withKey_of_sublist {v : Heading} {l : List (Item α)} (hperm : l.Perm items)
    (hs : (withKey v items).Sublist l) : withKey v l = withKey v items := by
  have hf := hs.filter fun i ↦ i.key.lower = v
  rw [List.filter_eq_self.2 fun i hi ↦ decide_eq_true (mem_withKey.1 hi).2] at hf
  exact (hf.eq_of_length (hperm.filter _).length_eq.symm).symm

theorem withKey_sort (v : Heading) (items : List (Item α)) :
    withKey v (sort items) = withKey v items :=
  withKey_of_sublist (sort_perm items) (List.sublist_mergeSort Item.le_trans Item.le_total
    (pairwise_of_key_eq fun _ hi ↦ (mem_withKey.1 hi).2) List.filter_sublist)

theorem mem_iff_of_withKey_eq {l m : List (Item α)} (h : ∀ v, withKey v l = withKey v m)
    (i : Item α) : i ∈ l ↔ i ∈ m := by
  have hi : i ∈ withKey i.key.lower l ↔ i ∈ withKey i.key.lower m := by rw [h]
  simpa [mem_withKey] using hi

theorem eq_of_withKey_eq {l m : List (Item α)} (hl : l.Pairwise (·.le · = true))
    (hm : m.Pairwise (·.le · = true)) (h : ∀ v, withKey v l = withKey v m) : l = m := by
  have hmem := mem_iff_of_withKey_eq h
  induction l generalizing m with
  | nil =>
    cases m with
    | nil => rfl
    | cons b m => simpa using hmem b
  | cons a l ih =>
    cases m with
    | nil => simpa using hmem a
    | cons b m =>
      rw [List.pairwise_cons] at hl hm
      -- each head stands in the other list, so neither is below the other
      have hk : a.key.lower = b.key.lower := by
        rcases List.mem_cons.1 ((hmem a).1 List.mem_cons_self) with hab | ham
        · rw [hab]
        rcases List.mem_cons.1 ((hmem b).2 List.mem_cons_self) with hba | hbl
        · rw [hba]
        exact Item.key_eq_of_le (hl.1 b hbl) (hm.1 a ham)
      have ha := h a.key.lower
      rw [withKey_cons_of_eq rfl, withKey_cons_of_eq hk.symm] at ha
      obtain ⟨rfl, -⟩ := List.cons.inj ha
      have ht : ∀ v, withKey v l = withKey v m := by
        intro v
        have hv := h v
        by_cases hav : a.key.lower = v
        · rw [withKey_cons_of_eq hav, withKey_cons_of_eq hav] at hv
          exact (List.cons.inj hv).2
        · rwa [withKey_cons_of_ne hav, withKey_cons_of_ne hav] at hv
      rw [ih hl.2 hm.2 ht (mem_iff_of_withKey_eq ht)]

theorem sort_eq {l : List (Item α)} (hl : l.Pairwise (·.le · = true))
    (h : ∀ v, withKey v l = withKey v items) : sort items = l :=
  eq_of_withKey_eq (pairwise_sort items) hl fun v ↦ by rw [withKey_sort, h]

theorem sort_eq_insertionSort (items : List (Item α)) :
    sort items = items.insertionSort (·.le · = true) := by
  have htrans : IsTrans (Item α) (·.le · = true) := ⟨Item.le_trans⟩
  have htotal : Std.Total (α := Item α) (·.le · = true) :=
    ⟨fun a b ↦ Bool.or_eq_true _ _ ▸ Item.le_total a b⟩
  refine sort_eq (List.pairwise_insertionSort _ items) fun v ↦ ?_
  exact withKey_of_sublist (List.perm_insertionSort _ items) (List.sublist_insertionSort
    (pairwise_of_key_eq fun _ hi ↦ (mem_withKey.1 hi).2) List.filter_sublist)

/-- The different texts of a list in ascending order. -/
def ascending (ks : List Text) : List Text := ks.dedup.mergeSort Text.le

theorem mem_ascending {ks : List Text} {k : Text} : k ∈ ascending ks ↔ k ∈ ks :=
  (List.mergeSort_perm _ _).mem_iff.trans List.mem_dedup

theorem ascending_nodup (ks : List Text) : (ascending ks).Nodup :=
  (List.mergeSort_perm _ _).nodup_iff.2 ks.nodup_dedup

theorem pairwise_ascending (ks : List Text) : (ascending ks).Pairwise (· < ·) := by
  have hle : (ascending ks).Pairwise (Text.le · · = true) := by
    rw [ascending, Text.mergeSort_eq_insertionSort]
    exact List.pairwise_insertionSort _ _
  refine (hle.and (ascending_nodup ks)).imp fun {a b} h ↦ ?_
  exact lt_of_le_of_ne ((Text.le_iff a b).1 h.1) h.2

theorem flatMap_of_nodup {β γ : Type} [DecidableEq β] {ks : List β} (hn : ks.Nodup) {k : β}
    {c : List γ} (hk : k ∈ ks ∨ c = []) :
    (ks.flatMap fun j ↦ if j = k then c else []) = c := by
  induction ks with
  | nil => simpa [eq_comm] using hk
  | cons j ks ih =>
    rw [List.nodup_cons] at hn
    rw [List.flatMap_cons]
    by_cases hj : j = k
    · subst hj
      have hnil : (ks.flatMap fun i ↦ if i = j then c else []) = [] := by
        refine List.flatMap_eq_nil_iff.2 fun i hi ↦ if_neg ?_
        rintro rfl
        exact hn.1 hi
      rw [if_pos rfl, hnil, List.append_nil]
    · rw [if_neg hj, List.nil_append]
      refine ih hn.2 (hk.imp_left fun h ↦ ?_)
      exact (List.mem_cons.1 h).resolve_left (Ne.symm hj)

theorem sort_eq_flatMap_of_pairwise {β : Type} [DecidableEq β] (g : Heading → β) {ks : List β}
    (hn : ks.Nodup) (hmem : ∀ i ∈ items, g i.key.lower ∈ ks)
    (hle : ks.Pairwise fun j k ↦ ∀ a ∈ items, ∀ b ∈ items,
      g a.key.lower = j → g b.key.lower = k → a.le b = true) :
    sort items = ks.flatMap fun k ↦ sort (items.filter fun i ↦ g i.key.lower = k) := by
  refine sort_eq ?_ fun v ↦ ?_
  · rw [List.pairwise_flatMap]
    refine ⟨fun k _ ↦ pairwise_sort _, hle.imp fun {j k} hjk a ha b hb ↦ ?_⟩
    rw [mem_sort, List.mem_filter, decide_eq_true_eq] at ha hb
    exact hjk a ha.1 b hb.1 ha.2 hb.2
  · have hrun : ∀ k, withKey v (sort (items.filter fun i ↦ g i.key.lower = k)) =
        if k = g v then withKey v items else [] := by
      intro k
      rw [withKey_sort, withKey, List.filter_filter]
      split
      · rename_i hk
        refine List.filter_congr fun i _ ↦ ?_
        rw [hk]
        by_cases hv : i.key.lower = v
        · simp [hv]
        · simp [hv]
      · rename_i hk
        refine List.filter_eq_nil_iff.2 fun i _ ↦ ?_
        rintro hi
        rw [Bool.and_eq_true, decide_eq_true_eq, decide_eq_true_eq] at hi
        exact hk (hi.1 ▸ hi.2.symm)
    rw [withKey, List.filter_flatMap]
    refine (List.flatMap_congr fun k _ ↦ hrun k).trans (flatMap_of_nodup hn ?_)
    by_cases hv : withKey v items = []
    · exact .inr hv
    · obtain ⟨i, hi⟩ := List.exists_mem_of_ne_nil _ hv
      rw [mem_withKey] at hi
      exact .inl (hi.2 ▸ hmem i hi.1)

theorem sort_eq_flatMap (g : Heading → Text)
    (mono : ∀ a ∈ items, ∀ b ∈ items, a.le b = true → g a.key.lower ≤ g b.key.lower) :
    sort items = (ascending (items.map fun i ↦ g i.key.lower)).flatMap fun k ↦
      sort (items.filter fun i ↦ g i.key.lower = k) := by
  refine sort_eq_flatMap_of_pairwise g (ascending_nodup _)
    (fun i hi ↦ mem_ascending.2 (List.mem_map.2 ⟨i, hi, rfl⟩)) ?_
  refine (pairwise_ascending _).imp fun {j k} hjk a ha b hb haj hbk ↦ ?_
  rcases Bool.or_eq_true _ _ ▸ Item.le_total a b with h | h
  · exact h
  · have hg := mono b hb a ha h
    rw [haj, hbk] at hg
    exact absurd hjk hg.not_gt

/-- The different lower-case keys in ascending order. -/
def keys (items : List (Item α)) : List Heading := ((sort items).map fun i ↦ i.key.lower).dedup

theorem mem_keys {v : Heading} : v ∈ keys items ↔ ∃ i ∈ items, i.key.lower = v := by
  simp only [keys, List.mem_dedup, List.mem_map, mem_sort]

theorem pairwise_keys (items : List (Item α)) : (keys items).Pairwise (·.order < ·.order) := by
  have hle : ((sort items).map fun i ↦ i.key.lower).Pairwise (·.order ≤ ·.order) := by
    rw [List.pairwise_map]
    exact (pairwise_sort items).imp fun {a b} h ↦ (Item.le_iff a b).1 h
  refine ((hle.sublist (List.dedup_sublist _)).and (List.nodup_dedup _)).imp fun {a b} h ↦ ?_
  exact lt_of_le_of_ne h.1 fun he ↦ h.2 (Heading.order_injective he)

theorem sort_eq_flatMap_withKey (items : List (Item α)) :
    sort items = (keys items).flatMap fun v ↦ withKey v items := by
  have hruns : sort items = (keys items).flatMap fun v ↦ sort (withKey v items) := by
    refine sort_eq_flatMap_of_pairwise id (List.nodup_dedup _)
      (fun i hi ↦ mem_keys.2 ⟨i, hi, rfl⟩) ?_
    refine (pairwise_keys items).imp fun {j k} hjk a _ b _ ha hb ↦ (Item.le_iff a b).2 ?_
    rw [← ha, ← hb] at hjk
    exact hjk.le
  rw [hruns]
  refine List.flatMap_congr fun v _ ↦ sort_eq ?_ fun w ↦ rfl
  exact pairwise_of_key_eq fun i hi ↦ (mem_withKey.1 hi).2

theorem sort_eq_append {v : Heading} (least : ∀ i ∈ items, v.order ≤ i.key.lower.order) :
    sort items = withKey v items ++ sort (items.filter fun i ↦ i.key.lower ≠ v) := by
  refine sort_eq ?_ fun k ↦ ?_
  · refine List.pairwise_append.2 ⟨pairwise_of_key_eq fun i hi ↦ (mem_withKey.1 hi).2,
      pairwise_sort _, fun i hi j hj ↦ ?_⟩
    rw [mem_sort] at hj
    have h := least j (List.mem_filter.1 hj).1
    rw [← (mem_withKey.1 hi).2] at h
    exact (Item.le_iff i j).2 h
  · have ha : withKey k (withKey v items ++ sort (items.filter fun i ↦ i.key.lower ≠ v)) =
        withKey k (withKey v items) ++ withKey k (items.filter fun i ↦ i.key.lower ≠ v) := by
      rw [← withKey_sort k (items.filter _)]
      exact List.filter_append ..
    rw [ha, withKey, withKey, withKey, withKey, List.filter_filter, List.filter_filter]
    by_cases hk : k = v
    · subst hk
      simp
    · have hn : ∀ i : Item α, (decide (i.key.lower = k) && decide (i.key.lower = v)) = false := by
        intro i
        rw [Bool.and_eq_false_iff, decide_eq_false_iff_not, decide_eq_false_iff_not]
        by_cases hi : i.key.lower = k
        · exact .inr fun hv ↦ hk (hi.symm.trans hv)
        · exact .inl hi
      simp only [hn, List.filter_false, List.nil_append]
      refine List.filter_congr fun i _ ↦ ?_
      by_cases hi : i.key.lower = k
      · simp [hi, hk]
      · simp [hi]

end Xhtml
end BookIndex
