import BookIndex.Xhtml.Render
import BookIndex.Proofs.Xhtml.Order

namespace BookIndex

theorem Text.lower_eq_nil_iff {s : Text} : Text.lower s = [] ↔ s = [] := by
  cases s with
  | nil => simp
  | cons c s =>
    simp only [Text.lower, Text.lowerFrom]
    split
    · simp
    · split
      · simp
      · simp

namespace Xhtml

open Markup

namespace Depth

/-- The level of a heading at a depth. -/
def level : Depth → Heading → Text
  | main => Heading.main
  | sub => Heading.sub
  | subsub => Heading.subsub

def nextLevel : Depth → Heading → Text
  | main => Heading.sub
  | sub => Heading.subsub
  | subsub => fun _ ↦ []

/-- A heading without the levels below a depth. -/
def upTo : Depth → Heading → Heading
  | main, h => ⟨h.main, [], []⟩
  | sub, h => ⟨h.main, h.sub, []⟩
  | subsub, h => h

def above : Depth → Heading → Heading
  | main, _ => ⟨[], [], []⟩
  | sub, h => ⟨h.main, [], []⟩
  | subsub, h => ⟨h.main, h.sub, []⟩

def cssClass : Depth → String
  | main => "main"
  | sub => "subentry"
  | subsub => "subsubentry"

end Depth

/-- An entry of an index: its label, the positions of its own links, and the entries below it. -/
structure Node (α χ : Type) where
  label : Text
  links : List α
  children : List χ

abbrev SubsubNode (α : Type) := Node α Empty

abbrev SubNode (α : Type) := Node α (SubsubNode α)

abbrev MainNode (α : Type) := Node α (SubNode α)

section

variable {α χ : Type}

/-- The level that the first of the sorted items shows. -/
def label (d : Depth) (items : List (Item α)) : Text :=
  ((sort items).head?.map fun i ↦ d.level i.display).getD []

/-- The entry of the items that agree down to a depth. -/
def node (d : Depth) (children : List (Item α) → List χ) (items : List (Item α)) : Node α χ where
  label := label d items
  links := (items.filter fun i ↦ d.nextLevel i.key.lower = []).map Item.position
  children := children (items.filter fun i ↦ d.nextLevel i.key.lower ≠ [])

/-- The entries of the items that agree above a depth. -/
def nodes (d : Depth) (children : List (Item α) → List χ) (items : List (Item α)) :
    List (Node α χ) :=
  (ascending (items.map fun i ↦ d.level i.key.lower)).map fun k ↦
    node d children (items.filter fun i ↦ d.level i.key.lower = k)

def subsubNodes (items : List (Item α)) : List (SubsubNode α) := nodes .subsub (fun _ ↦ []) items

def subNodes (items : List (Item α)) : List (SubNode α) := nodes .sub subsubNodes items

def tree (items : List (Item α)) : List (MainNode α) := nodes .main subNodes items

/-- The items of a row show a level exactly if they are sorted by it, and no level stands below an
empty one. -/
structure Item.Aligned (i : Item α) : Prop where
  sub : i.display.sub = [] ↔ i.key.sub = []
  subsub : i.display.subsub = [] ↔ i.key.subsub = []
  nested : i.key.sub = [] → i.key.subsub = []

instance (i : Item α) : Decidable i.Aligned :=
  decidable_of_iff ((i.display.sub = [] ↔ i.key.sub = []) ∧
      (i.display.subsub = [] ↔ i.key.subsub = []) ∧ (i.key.sub = [] → i.key.subsub = []))
    ⟨fun h ↦ ⟨h.1, h.2.1, h.2.2⟩, fun h ↦ ⟨h.sub, h.subsub, h.nested⟩⟩

end

def closeList (final : Bool) : List Xml.Token :=
  if final then [endItem, endList, newline] else [endItem, newline, endList, newline]

def siblings {β : Type} (write : Bool → β → List Xml.Token) (final : Bool) :
    List β → List Xml.Token
  | [] => []
  | [n] => write final n
  | n :: m :: ns => write false n ++ [endItem, newline] ++ siblings write final (m :: ns)

section

variable {α χ : Type} (anchor : α → Text)

def links (n : Nat) : List α → List Xml.Token
  | [] => []
  | p :: ps => link anchor n p ++ links (n + 1) ps

def nodeTokens (d : Depth) (below : Bool → List χ → List Xml.Token) (final : Bool)
    (n : Node α χ) : List Xml.Token :=
  item d.cssClass n.label ++ links anchor 1 n.links ++ below final n.children

def listTokens (d : Depth) (below : Bool → List χ → List Xml.Token) (final : Bool) :
    List (Node α χ) → List Xml.Token
  | [] => []
  | ns => newline :: list d.cssClass :: siblings (nodeTokens anchor d below) final ns ++
      closeList final

def subsubTokens : Bool → List (SubsubNode α) → List Xml.Token :=
  listTokens anchor .subsub fun _ _ ↦ []

def subTokens : Bool → List (SubNode α) → List Xml.Token :=
  listTokens anchor .sub (subsubTokens anchor)

def treeTokens (style : Style) (ns : List (MainNode α)) : List Xml.Token :=
  [.start "div".toList [("class".toList, "index ".toList ++ style.cssClass)] quote, newline,
    .start style.headingTag [] ['"'], .data style.heading, .finish style.headingTag, newline,
    list "main", newline] ++
  siblings (nodeTokens anchor .main (subTokens anchor)) true ns ++ closeList true ++
  [.finish "div".toList, newline]

end

namespace Depth

theorem upTo_lower (d : Depth) (h : Heading) : d.upTo h.lower = (d.upTo h).lower := by
  cases d <;> rfl

theorem upTo_eq_iff (d : Depth) (a b : Heading) :
    d.upTo a = d.upTo b ↔ d.above a = d.above b ∧ d.level a = d.level b := by
  cases a
  cases b
  cases d <;> simp [upTo, above, level, and_assoc]

theorem level_le {d : Depth} {a b : Heading} (habove : d.above a = d.above b)
    (h : a.order ≤ b.order) : d.level a ≤ d.level b := by
  unfold Heading.order at h
  rw [Prod.Lex.toLex_le_toLex, Prod.Lex.toLex_le_toLex] at h
  cases d with
  | main => exact h.elim le_of_lt fun h ↦ h.1.le
  | sub =>
    have hm : a.main = b.main := (Heading.mk.inj habove).1
    have h := h.resolve_left fun hlt ↦ hlt.ne hm
    exact h.2.elim le_of_lt fun h ↦ h.1.le
  | subsub =>
    have hm : a.main = b.main := (Heading.mk.inj habove).1
    have hs : a.sub = b.sub := (Heading.mk.inj habove).2.1
    have h := (h.resolve_left fun hlt ↦ hlt.ne hm).2
    exact (h.resolve_left fun hlt ↦ hlt.ne hs).2

theorem order_upTo_le (d : Depth) (h : Heading) : (d.upTo h).order ≤ h.order := by
  have hnil : ∀ s : Text, ([] : Text) ≤ s := fun s ↦ (Text.le_iff [] s).1 rfl
  have hpair : ∀ s t : Text, toLex (([] : Text), ([] : Text)) ≤ toLex (s, t) := by
    intro s t
    rw [Prod.Lex.toLex_le_toLex]
    exact (hnil s).lt_or_eq.imp_right fun hs ↦ ⟨hs, hnil t⟩
  unfold Heading.order
  cases d with
  | main => exact Prod.Lex.toLex_le_toLex.2 (.inr ⟨rfl, hpair _ _⟩)
  | sub =>
    refine Prod.Lex.toLex_le_toLex.2 (.inr ⟨rfl, ?_⟩)
    exact Prod.Lex.toLex_le_toLex.2 (.inr ⟨rfl, hnil _⟩)
  | subsub => exact le_rfl

end Depth
end Xhtml
end BookIndex
