import BookIndex.Xml.Id
import BookIndex.Xml.Tag

namespace BookIndex.Xml

inductive Event where
  | start (name : Text) (attrs : Attrs)
  | finish (name : Text)
  | empty (name : Text) (attrs : Attrs)
  | char (c : Char)
  deriving DecidableEq, Repr

def Token.events : Token → List Event
  | .start name attrs _ => [.start name attrs]
  | .finish name => [.finish name]
  | .empty name attrs _ => [.empty name attrs]
  | .data s => s.map .char

def events (ts : List Token) : List Event := ts.flatMap Token.events

def isNameChar (c : Char) : Bool := isIdChar c || c == ':'

def PlainName (s : Text) : Prop := s ≠ [] ∧ ∀ c ∈ s, isNameChar c = true

instance (s : Text) : Decidable (PlainName s) :=
  decidable_of_iff (s ≠ [] ∧ s.all isNameChar = true) (by rw [List.all_eq_true, PlainName])

def quotes : List Char := ['"', '\'']

/-- Tags with plain names and with values in quotes of one kind. -/
def Token.Plain : Token → Prop
  | .start name attrs quote | .empty name attrs quote =>
    PlainName name ∧ ∀ a ∈ attrs, PlainName a.1 ∧ ∃ q ∈ quotes, quote = [q]
  | .finish name => PlainName name
  | .data _ => True

def entities : List (Text × Char) :=
  [("amp".toList, '&'), ("lt".toList, '<'), ("gt".toList, '>'), ("quot".toList, '"'),
    ("apos".toList, '\'')]

inductive Place where
  | content
  | value (name : Text) (attrs : Attrs) (key : Text) (quote : Char) (s : Text)

/-- What a reader has read of the tag or entity in which it stands. -/
inductive Reader where
  | chars (place : Place)
  | entity (place : Place) (name : Text)
  | less
  | finish (name : Text)
  | start (name : Text)
  | gap (name : Text) (attrs : Attrs)
  | attr (name : Text) (attrs : Attrs) (key : Text)
  | equals (name : Text) (attrs : Attrs) (key : Text)
  | closed (name : Text) (attrs : Attrs)
  | slash (name : Text) (attrs : Attrs)

def Place.put : Place → Char → List Event × Reader
  | content, c => ([.char c], .chars .content)
  | value name attrs key quote s, c => ([], .chars (.value name attrs key quote (s ++ [c])))

namespace Reader

def initial : Reader := chars .content

def stepInTag (name : Text) (attrs : Attrs) (c : Char) : Option (List Event × Reader) :=
  if c = '>' then some ([.start name attrs], initial)
  else if c = '/' then some ([], slash name attrs)
  else if Text.isBlank c then some ([], gap name attrs)
  else none

def stepChars (c : Char) : Place → Option (List Event × Reader)
  | .content => some (if c = '<' then ([], less) else Place.content.put c)
  | .value name attrs key quote s =>
    if c = quote then some ([], closed name (attrs ++ [(key, s)]))
    else if c = '<' then none
    else some ((Place.value name attrs key quote s).put c)

def step : Reader → Char → Option (List Event × Reader)
  | chars place, c => if c = '&' then some ([], entity place []) else stepChars c place
  | entity place name, c =>
    if c = ';' then (entities.lookup name).map place.put else some ([], entity place (name ++ [c]))
  | less, c =>
    if c = '/' then some ([], finish [])
    else if isNameChar c then some ([], start [c])
    else none
  | finish name, c =>
    if isNameChar c then some ([], finish (name ++ [c]))
    else if c = '>' ∧ name ≠ [] then some ([.finish name], initial)
    else none
  | start name, c =>
    if isNameChar c then some ([], start (name ++ [c])) else stepInTag name [] c
  | gap name attrs, c =>
    if isNameChar c then some ([], attr name attrs [c]) else stepInTag name attrs c
  | attr name attrs key, c =>
    if isNameChar c then some ([], attr name attrs (key ++ [c]))
    else if c = '=' then some ([], equals name attrs key)
    else none
  | equals name attrs key, c =>
    if c ∈ quotes then some ([], chars (.value name attrs key c [])) else none
  | closed name attrs, c => stepInTag name attrs c
  | slash name attrs, c => if c = '>' then some ([.empty name attrs], initial) else none

def run : Reader → Text → Option (List Event × Reader)
  | r, [] => some ([], r)
  | r, c :: s => (r.step c).bind fun x ↦ (run x.2 s).map fun y ↦ (x.1 ++ y.1, y.2)

end Reader

/-- What a text means to a reader, unless it breaks off in a tag or an entity. -/
def read (s : Text) : Option (List Event) :=
  match Reader.initial.run s with
  | some (es, .chars .content) => some es
  | _ => none

@[simp] theorem events_nil : events [] = [] := rfl

@[simp] theorem events_cons (t : Token) (ts : List Token) :
    events (t :: ts) = t.events ++ events ts :=
  List.flatMap_cons

@[simp] theorem events_append (ts us : List Token) : events (ts ++ us) = events ts ++ events us :=
  List.flatMap_append

namespace Reader

theorem run_cons {r r' r'' : Reader} {c : Char} {s : Text} {es es' : List Event}
    (h : r.step c = some (es, r')) (h' : r'.run s = some (es', r'')) :
    r.run (c :: s) = some (es ++ es', r'') := by
  rw [run, h, Option.bind_some, h', Option.map_some]

theorem run_append {r r' r'' : Reader} {s t : Text} {es es' : List Event}
    (h : r.run s = some (es, r')) (h' : r'.run t = some (es', r'')) :
    r.run (s ++ t) = some (es ++ es', r'') := by
  induction s generalizing r es with
  | nil =>
    cases h
    exact h'
  | cons c s ih =>
    obtain ⟨x, hx, hs⟩ := Option.bind_eq_some_iff.1 h
    obtain ⟨y, hy, hes⟩ := Option.map_eq_some_iff.1 hs
    cases hes
    rw [List.append_assoc]
    exact run_cons hx (ih hy)

theorem run_collect {f : Text → Reader} {write : Char → Text} {s : Text}
    (h : ∀ c ∈ s, ∀ t, (f t).run (write c) = some ([], f (t ++ [c]))) (t : Text) :
    (f t).run (s.flatMap write) = some ([], f (t ++ s)) := by
  induction s generalizing t with
  | nil => rw [List.append_nil]; rfl
  | cons c s ih =>
    have hc := h c List.mem_cons_self t
    have hs := ih (fun d hd ↦ h d (List.mem_cons_of_mem c hd)) (t ++ [c])
    rw [List.append_assoc] at hs
    exact run_append hc hs

theorem run_name {f : Text → Reader} (hf : ∀ t c, isNameChar c = true →
    (f t).step c = some ([], f (t ++ [c]))) {s : Text} (hs : ∀ c ∈ s, isNameChar c = true)
    (t : Text) : (f t).run s = some ([], f (t ++ s)) := by
  have h : (f t).run (s.flatMap fun c ↦ [c]) = some ([], f (t ++ s)) :=
    run_collect (fun c hc t ↦ run_cons (hf t c (hs c hc)) rfl) t
  rwa [List.flatMap_singleton'] at h

theorem run_entity (place : Place) (name : Text) {c : Char} (h : (name, c) ∈ entities) :
    (chars place).run ('&' :: name ++ [';']) = some (place.put c) := by
  simp only [entities, List.mem_cons, Prod.mk.injEq, List.not_mem_nil, or_false] at h
  rcases h with ⟨rfl, rfl⟩ | ⟨rfl, rfl⟩ | ⟨rfl, rfl⟩ | ⟨rfl, rfl⟩ | ⟨rfl, rfl⟩ <;>
    cases place <;> rfl

theorem run_escapeChar (c : Char) : initial.run (escapeChar c) = some ([.char c], initial) := by
  unfold escapeChar
  split
  · exact run_entity .content "amp".toList (by decide)
  · exact run_entity .content "lt".toList (by decide)
  · exact run_entity .content "gt".toList (by decide)
  · rename_i hamp hlt hgt
    have hstep : initial.step c = some ([.char c], initial) := by
      simp only [initial, step, stepChars, if_neg hamp, if_neg hlt]
      rfl
    exact run_cons hstep rfl

theorem run_escape (s : Text) : initial.run (escape s) = some (s.map .char, initial) := by
  induction s with
  | nil => rfl
  | cons c s ih => exact run_append (run_escapeChar c) ih

theorem run_escapeAttrChar {q : Char} (hq : q ∈ quotes) (name : Text) (attrs : Attrs)
    (key : Text) (c : Char) (s : Text) :
    (chars (.value name attrs key q s)).run (escapeAttrChar c) =
      some ([], chars (.value name attrs key q (s ++ [c]))) := by
  unfold escapeAttrChar escapeChar
  split
  · exact run_entity (.value name attrs key q s) "quot".toList (by decide)
  · exact run_entity (.value name attrs key q s) "apos".toList (by decide)
  · rename_i hquot hapos
    split
    · exact run_entity (.value name attrs key q s) "amp".toList (by decide)
    · exact run_entity (.value name attrs key q s) "lt".toList (by decide)
    · exact run_entity (.value name attrs key q s) "gt".toList (by decide)
    · rename_i hamp hlt hgt
      have hc : c ≠ q := by
        rintro rfl
        simp only [quotes, List.mem_cons, List.not_mem_nil, or_false] at hq
        exact hq.elim hquot hapos
      have hstep : (chars (.value name attrs key q s)).step c =
          some ([], chars (.value name attrs key q (s ++ [c]))) := by
        simp only [step, stepChars, if_neg hamp, if_neg hc, if_neg hlt]
        rfl
      exact run_cons hstep rfl

/-- A reader in a tag, behind its name or behind a value. -/
def InTag (r : Reader) (name : Text) (attrs : Attrs) : Prop :=
  ∀ c, isNameChar c = false → r.step c = stepInTag name attrs c

theorem inTag_start (name : Text) : (start name).InTag name [] := fun c hc ↦ by
  rw [step, hc]
  rfl

theorem inTag_closed (name : Text) (attrs : Attrs) : (closed name attrs).InTag name attrs :=
  fun _ _ ↦ rfl

theorem run_attr {r : Reader} {name : Text} {attrs : Attrs} (hr : r.InTag name attrs)
    {a : Text × Text} (ha : PlainName a.1) {q : Char} (hq : q ∈ quotes) :
    r.run (' ' :: a.1 ++ '=' :: [q] ++ escapeAttr a.2 ++ [q]) =
      some ([], closed name (attrs ++ [a])) := by
  obtain ⟨key, value⟩ := a
  obtain ⟨hne, hkey⟩ := ha
  obtain ⟨k, ks, rfl⟩ := List.exists_cons_of_ne_nil hne
  have hblank : r.step ' ' = some ([], gap name attrs) := by
    rw [hr ' ' (by decide)]
    rfl
  have hfirst : (gap name attrs).step k = some ([], attr name attrs [k]) := by
    rw [step, hkey k List.mem_cons_self]
    rfl
  have hname : (attr name attrs [k]).run ks = some ([], attr name attrs (k :: ks)) :=
    run_name (f := attr name attrs) (fun t c hc ↦ by rw [step, hc]; rfl)
      (fun c hc ↦ hkey c (List.mem_cons_of_mem k hc)) [k]
  have hequals : (attr name attrs (k :: ks)).step '=' = some ([], equals name attrs (k :: ks)) := by
    rw [step, if_neg (by decide), if_pos rfl]
  have hopen : (equals name attrs (k :: ks)).step q =
      some ([], chars (.value name attrs (k :: ks) q [])) := if_pos hq
  have hvalue : (chars (.value name attrs (k :: ks) q [])).run (escapeAttr value) =
      some ([], chars (.value name attrs (k :: ks) q value)) :=
    run_collect (f := fun s ↦ chars (.value name attrs (k :: ks) q s))
      (fun c _ s ↦ run_escapeAttrChar hq name attrs (k :: ks) c s) []
  have hamp : q ≠ '&' := by
    rintro rfl
    exact absurd hq (by decide)
  have hclose : (chars (.value name attrs (k :: ks) q value)).step q =
      some ([], closed name (attrs ++ [(k :: ks, value)])) := by
    rw [step, if_neg hamp, stepChars, if_pos rfl]
  have hquoted := run_append (run_cons hopen hvalue) (run_cons (s := []) hclose rfl)
  have hall := run_cons hblank (run_cons hfirst (run_append hname (run_cons hequals hquoted)))
  simpa only [List.cons_append, List.nil_append, List.append_assoc] using hall

theorem run_attrs {r : Reader} {name : Text} {attrs rest : Attrs} (hr : r.InTag name attrs)
    {quote : Text} (h : ∀ a ∈ rest, PlainName a.1 ∧ ∃ q ∈ quotes, quote = [q]) :
    ∃ r', r.run (writeAttrs quote rest) = some ([], r') ∧ r'.InTag name (attrs ++ rest) := by
  induction rest generalizing r attrs with
  | nil => exact ⟨r, rfl, by rwa [List.append_nil]⟩
  | cons a rest ih =>
    obtain ⟨ha, q, hq, rfl⟩ := h a List.mem_cons_self
    obtain ⟨r', hrun, hr'⟩ := ih (inTag_closed name (attrs ++ [a]))
      fun b hb ↦ h b (List.mem_cons_of_mem a hb)
    rw [List.append_assoc] at hr'
    refine ⟨r', ?_, hr'⟩
    have hfirst := run_append (run_attr hr ha hq) hrun
    simpa only [writeAttrs, List.flatMap_cons, List.cons_append, List.nil_append,
      List.append_assoc] using hfirst

theorem step_less : initial.step '<' = some ([], less) := rfl

theorem run_tagName {name : Text} (h : PlainName name) :
    initial.run ('<' :: name) = some ([], start name) := by
  obtain ⟨hne, hname⟩ := h
  obtain ⟨c, s, rfl⟩ := List.exists_cons_of_ne_nil hne
  have hc : isNameChar c = true := hname c List.mem_cons_self
  have hslash : c ≠ '/' := by
    rintro rfl
    exact absurd hc (by decide)
  have hfirst : less.step c = some ([], start [c]) := by
    rw [step, if_neg hslash, if_pos hc]
  have hrest : (start [c]).run s = some ([], start (c :: s)) :=
    run_name (fun t d hd ↦ by rw [step, hd]; rfl)
      (fun d hd ↦ hname d (List.mem_cons_of_mem c hd)) [c]
  exact run_cons step_less (run_cons hfirst hrest)

theorem run_finish {name : Text} (h : PlainName name) :
    initial.run ('<' :: '/' :: name ++ ['>']) = some ([.finish name], initial) := by
  have hname : (finish []).run name = some ([], finish name) :=
    run_name (fun t c hc ↦ by rw [step, hc]; rfl) h.2 []
  have hend : (finish name).step '>' = some ([.finish name], initial) := by
    rw [step, if_neg (by decide), if_pos ⟨rfl, h.1⟩]
  have hslash : less.step '/' = some ([], finish []) := rfl
  exact run_cons step_less (run_cons hslash (run_append hname (run_cons hend rfl)))

theorem run_write {t : Token} (h : t.Plain) : initial.run t.write = some (t.events, initial) := by
  cases t with
  | start name attrs quote =>
    obtain ⟨r, hrun, hr⟩ := run_attrs (inTag_start name) h.2
    have hend : r.step '>' = some ([.start name attrs], initial) := hr '>' (by decide)
    exact run_append (run_append (run_tagName h.1) hrun) (run_cons hend rfl)
  | finish name => exact run_finish h
  | empty name attrs quote =>
    obtain ⟨r, hrun, hr⟩ := run_attrs (inTag_start name) h.2
    have hgap : r.step ' ' = some ([], gap name attrs) := hr ' ' (by decide)
    have hslash : (gap name attrs).step '/' = some ([], slash name attrs) := by
      rw [step, if_neg (by decide)]
      rfl
    have hend : (slash name attrs).step '>' = some ([.empty name attrs], initial) := rfl
    exact run_append (run_append (run_tagName h.1) hrun)
      (run_cons hgap (run_cons hslash (run_cons hend rfl)))
  | data s => exact run_escape s

end Reader

/-- A reader takes written tokens for what they are. -/
theorem read_write {ts : List Token} (h : ∀ t ∈ ts, t.Plain) :
    read (write ts) = some (events ts) := by
  have hrun : Reader.initial.run (write ts) = some (events ts, Reader.initial) := by
    induction ts with
    | nil => rfl
    | cons t ts ih =>
      rw [write_cons, events_cons]
      exact Reader.run_append (Reader.run_write (h t List.mem_cons_self))
        (ih fun u hu ↦ h u (List.mem_cons_of_mem t hu))
  rw [read, hrun]
  rfl

end BookIndex.Xml
