import BookIndex.Proofs.Text.Infix
import BookIndex.Proofs.Text.Lemmas
import BookIndex.Proofs.Xml.Reading

namespace BookIndex.Xml

def entity (name : Text) : Text := '&' :: name ++ [';']

def decodeWith (es : List (Text × Char)) (s : Text) : Text :=
  es.foldr (fun e t ↦ Text.replace (entity e.1) [e.2] t) s

def decode (s : Text) : Text := decodeWith entities s

/-- A way to write characters: each as it is or as an entity, and the ampersand as an entity. -/
def Coded (f : Char → Text) : Prop :=
  ∀ c, f c = [c] ∧ c ≠ '&' ∨ ∃ name, (name, c) ∈ entities ∧ f c = entity name

def decoded (es : List (Text × Char)) (f : Char → Text) (c : Char) : Text :=
  if c ∈ es.map Prod.snd then [c] else f c

theorem decoded_cons (e : Text × Char) (es : List (Text × Char)) (f : Char → Text) (c : Char) :
    decoded (e :: es) f c = if c = e.2 then [c] else decoded es f c := by
  unfold decoded
  by_cases hc : c = e.2
  · rw [if_pos hc, List.map_cons, hc, if_pos List.mem_cons_self]
  · have hmem : c ∈ (e :: es).map Prod.snd ↔ c ∈ es.map Prod.snd :=
      List.mem_cons.trans (or_iff_right hc)
    rw [if_neg hc, if_congr hmem rfl rfl]

theorem plain_entityName {e : Text × Char} (h : e ∈ entities) : '&' ∉ e.1 ∧ ';' ∉ e.1 := by
  simp only [entities, List.mem_cons, List.not_mem_nil, or_false] at h
  rcases h with rfl | rfl | rfl | rfl | rfl <;> decide

theorem entityName_inj {e e' : Text × Char} (h : e ∈ entities) (h' : e' ∈ entities) :
    e.1 = e'.1 ↔ e.2 = e'.2 := by
  simp only [entities, List.mem_cons, List.not_mem_nil, or_false] at h h'
  rcases h with rfl | rfl | rfl | rfl | rfl <;>
    rcases h' with rfl | rfl | rfl | rfl | rfl <;> decide

theorem entity_prefix_iff {e e' : Text × Char} (h : e ∈ entities) (h' : e' ∈ entities) (s : Text) :
    entity e.1 <+: entity e'.1 ++ s ↔ e = e' := by
  constructor
  · rintro ⟨t, ht⟩
    have hcut : e.1 ++ ';' :: t = e'.1 ++ ';' :: s := by
      simpa [entity] using ht
    have hname := ((Text.append_cons_inj (plain_entityName h).2 (plain_entityName h').2).1 hcut).1
    exact Prod.ext hname ((entityName_inj h h').1 hname)
  · rintro rfl
    exact List.prefix_append _ s

theorem replace_entity {f : Char → Text} (hf : Coded f) {e : Text × Char} (he : e ∈ entities)
    (s : Text) : Text.replace (entity e.1) [e.2] (s.flatMap f) =
      s.flatMap fun c ↦ if c = e.2 then [c] else f c := by
  induction s with
  | nil => rfl
  | cons c s ih =>
    rw [List.flatMap_cons, List.flatMap_cons, ← ih]
    rcases hf c with ⟨hfc, hamp⟩ | ⟨name, hname, hfc⟩
    · have hnot : ¬entity e.1 <+: c :: s.flatMap f :=
        fun hp ↦ hamp (List.cons_prefix_cons.1 hp).1.symm
      rw [hfc, ite_self]
      exact Text.replace_cons hnot [e.2]
    · rw [hfc]
      by_cases hc : c = e.2
      · have hsame : name = e.1 := (entityName_inj hname he).2 hc
        have hne : entity e.1 ≠ [] := List.cons_ne_nil _ _
        rw [if_pos hc, hsame, Text.replace_append hne, hc]
      · have hother : ¬entity e.1 <+: entity name ++ s.flatMap f := by
          rw [entity_prefix_iff he hname]
          exact fun h ↦ hc (congrArg Prod.snd h).symm
        have hrest : '&' ∉ name ++ [';'] := by
          rw [List.mem_append, not_or]
          exact ⟨(plain_entityName hname).1, by decide⟩
        rw [if_neg hc]
        refine (Text.replace_cons hother [e.2]).trans (congrArg ('&' :: ·) ?_)
        exact Text.replace_append_of_notMem hrest _ _

theorem Coded.decoded {f : Char → Text} (hf : Coded f) {es : List (Text × Char)}
    (h : '&' ∉ es.map Prod.snd) : Coded (decoded es f) := by
  intro c
  unfold Xml.decoded
  split
  · rename_i hc
    refine .inl ⟨rfl, ?_⟩
    rintro rfl
    exact h hc
  · exact hf c

theorem decodeWith_flatMap {f : Char → Text} (hf : Coded f) {es : List (Text × Char)}
    (hes : ∀ e ∈ es, e ∈ entities) (hlast : '&' ∉ es.tail.map Prod.snd) (s : Text) :
    decodeWith es (s.flatMap f) = s.flatMap (decoded es f) := by
  induction es with
  | nil => rfl
  | cons e es ih =>
    have hrest : '&' ∉ es.tail.map Prod.snd := fun h ↦
      hlast (List.map_subset _ (List.tail_subset es) h)
    have hes' := List.forall_mem_cons.1 hes
    have hdecoded : decodeWith es (s.flatMap f) = s.flatMap (decoded es f) := ih hes'.2 hrest
    have hcoded : Coded (decoded es f) := hf.decoded hlast
    calc
      decodeWith (e :: es) (s.flatMap f)
        = Text.replace (entity e.1) [e.2] (decodeWith es (s.flatMap f)) := rfl
      _ = s.flatMap fun c ↦ if c = e.2 then [c] else decoded es f c := by
        rw [hdecoded, replace_entity hcoded hes'.1]
      _ = s.flatMap (decoded (e :: es) f) := by
        congr 1
        funext c
        rw [decoded_cons]

theorem decode_flatMap {f : Char → Text} (hf : Coded f) (s : Text) : decode (s.flatMap f) = s := by
  have hall : decoded entities f = fun c ↦ [c] := by
    funext c
    unfold decoded
    split
    · rfl
    · rename_i hc
      rcases hf c with ⟨hfc, -⟩ | ⟨name, hname, -⟩
      · exact hfc
      · exact absurd (List.mem_map_of_mem hname) hc
  rw [decode, decodeWith_flatMap hf (fun _ ↦ id) (by decide), hall, List.flatMap_singleton']

theorem coded_escapeChar : Coded escapeChar := by
  intro c
  unfold escapeChar
  split
  · exact .inr ⟨"amp".toList, by decide, rfl⟩
  · exact .inr ⟨"lt".toList, by decide, rfl⟩
  · exact .inr ⟨"gt".toList, by decide, rfl⟩
  · rename_i hamp _ _
    exact .inl ⟨rfl, hamp⟩

theorem coded_escapeAttrChar : Coded escapeAttrChar := by
  intro c
  unfold escapeAttrChar
  split
  · exact .inr ⟨"quot".toList, by decide, rfl⟩
  · exact .inr ⟨"apos".toList, by decide, rfl⟩
  · exact coded_escapeChar c

theorem Coded.not_mem_flatMap {f : Char → Text} (hf : Coded f) {d : Char} (hd : f d ≠ [d])
    (hentities : ∀ e ∈ entities, d ∉ entity e.1) (s : Text) : d ∉ s.flatMap f := by
  intro h
  obtain ⟨c, -, hc⟩ := List.mem_flatMap.1 h
  rcases hf c with ⟨hplain, -⟩ | ⟨name, hname, hentity⟩
  · rw [hplain] at hc
    obtain rfl := List.mem_singleton.1 hc
    exact hd hplain
  · rw [hentity] at hc
    exact hentities _ hname hc

theorem less_not_mem_escape (s : Text) : '<' ∉ escape s :=
  coded_escapeChar.not_mem_flatMap (by decide) (by decide) s

theorem quote_not_mem_escapeAttr {q : Char} (hq : q ∈ quotes) (s : Text) : q ∉ escapeAttr s := by
  simp only [quotes, List.mem_cons, List.not_mem_nil, or_false] at hq
  rcases hq with rfl | rfl
  · exact coded_escapeAttrChar.not_mem_flatMap (by decide) (by decide) s
  · exact coded_escapeAttrChar.not_mem_flatMap (by decide) (by decide) s

theorem decode_escape (s : Text) : decode (escape s) = s := decode_flatMap coded_escapeChar s

theorem decode_escapeAttr (s : Text) : decode (escapeAttr s) = s :=
  decode_flatMap coded_escapeAttrChar s

theorem escape_eq_replace (s : Text) :
    escape s = Text.replace ['<'] "&lt;".toList
      (Text.replace ['>'] "&gt;".toList (Text.replace ['&'] "&amp;".toList s)) := by
  rw [Text.replace_singleton, Text.replace_singleton, Text.replace_singleton, List.flatMap_assoc,
    List.flatMap_assoc, escape]
  congr 1
  funext c
  unfold escapeChar
  split
  · rfl
  · rfl
  · rfl
  · rename_i hamp hlt hgt
    rw [if_neg hamp, List.flatMap_singleton, if_neg hgt, List.flatMap_singleton, if_neg hlt]

theorem escapeAttr_eq_replace (s : Text) :
    escapeAttr s = Text.replace ['\''] "&apos;".toList
      (Text.replace ['"'] "&quot;".toList (escape s)) := by
  rw [Text.replace_singleton, Text.replace_singleton, escape, List.flatMap_assoc,
    List.flatMap_assoc, escapeAttr]
  congr 1
  funext c
  unfold escapeAttrChar
  split
  · rfl
  · rfl
  · rename_i hquot hapos
    unfold escapeChar
    split
    · rfl
    · rfl
    · rfl
    · rw [List.flatMap_singleton, if_neg hquot, List.flatMap_singleton, if_neg hapos]

end BookIndex.Xml
