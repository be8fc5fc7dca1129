import BookIndex.Occurrence
import BookIndex.Xhtml.Item
import BookIndex.Xml.Id
import BookIndex.Xml.Tag

namespace BookIndex.Xhtml

open Markup

structure Style where
  heading : Text
  headingTag : Text
  cssClass : Text

def quote : Text := ['\'']

def anchorId (position : Option Text) : Text := Xml.cleanId (position.getD [])

def anchorTag (id : Text) : Xml.Token := .empty "a".toList [("id".toList, id)] quote

def list (cssClass : String) : Xml.Token :=
  .start "ul".toList [("class".toList, cssClass.toList)] quote

def item (cssClass : String) (label : Text) : List Xml.Token :=
  [.start "li".toList [("class".toList, cssClass.toList)] quote, .data label]

def newline : Xml.Token := .data ['\n']

def endList : Xml.Token := .finish "ul".toList

def endItem : Xml.Token := .finish "li".toList

inductive Depth where
  | main | sub | subsub
  deriving DecidableEq, Repr

/-- Where the walk stands: the list that is open, the last key, and the number of its links. -/
structure Walk where
  depth : Depth
  last : Option Heading
  links : Nat
  deriving DecidableEq, Repr

namespace Walk

def initial : Walk := ⟨.main, none, 0⟩

def same (w : Walk) (agrees : Heading → Heading → Bool) (key : Heading) : Bool :=
  w.last.any (agrees key)

def closeSubsub (w : Walk) (key : Heading) : List Xml.Token × Depth :=
  match w.depth with
  | .subsub =>
    if w.same Heading.sameSub key then ([endItem, newline], .subsub)
    else ([endItem, newline, endList, newline], .sub)
  | depth => ([], depth)

def closeSub (w : Walk) (depth : Depth) (key : Heading) : List Xml.Token × Depth :=
  if depth = .sub && !w.same Heading.sameSub key then
    if w.same Heading.sameMain key then ([endItem, newline], .sub)
    else ([endItem, newline, endList, newline], .main)
  else ([], depth)

def closeMain (w : Walk) (depth : Depth) (key : Heading) : List Xml.Token :=
  if depth = .main && !w.same Heading.sameMain key then [endItem, newline] else []

def close (w : Walk) (key : Heading) : List Xml.Token × Depth :=
  if w.last.isNone then ([], w.depth)
  else
    let (subsub, depth) := w.closeSubsub key
    let (sub, depth) := w.closeSub depth key
    (subsub ++ sub ++ w.closeMain depth key, depth)

def openSubsub (subsub : Text) : List Xml.Token × Depth :=
  if subsub.isEmpty then ([], .sub)
  else (newline :: list "subsubentry" :: item "subsubentry" subsub, .subsub)

def openSub (display : Heading) : List Xml.Token × Depth :=
  if display.sub.isEmpty then ([], .main)
  else
    let (subsub, depth) := openSubsub display.subsub
    (newline :: list "subentry" :: item "subentry" display.sub ++ subsub, depth)

def openAt (w : Walk) (depth : Depth) (key display : Heading) : List Xml.Token × Depth :=
  match depth with
  | .subsub => (item "subsubentry" display.subsub, .subsub)
  | .sub =>
    let sub := if w.same Heading.sameSub key then [] else item "subentry" display.sub
    let (subsub, depth) := openSubsub display.subsub
    (sub ++ subsub, depth)
  | .main =>
    let main := if w.same Heading.sameMain key then [] else item "main" display.main
    let (sub, depth) := openSub display
    (main ++ sub, depth)

end Walk

variable {α : Type} (anchor : α → Text)

def link (n : Nat) (position : α) : List Xml.Token :=
  [.data [if n = 1 then ':' else ','], .data [' '],
    .start "a".toList [("href".toList, '#' :: anchor position)] quote, .data (Text.ofNat n),
    .finish "a".toList]

/-- What the walk writes for an item, and where it stands then. -/
def Walk.step (w : Walk) (i : Item α) : List Xml.Token × Walk :=
  if w.same Heading.sameAll i.key then
    (link anchor (w.links + 1) i.position, { w with last := some i.key, links := w.links + 1 })
  else
    let (closing, depth) := w.close i.key
    let (opening, depth) := w.openAt depth i.key i.display
    (closing ++ opening ++ link anchor 1 i.position, ⟨depth, some i.key, 1⟩)

def closeAll (depth : Depth) : List Xml.Token :=
  let once := [endItem, endList, newline]
  match depth with
  | .main => once
  | .sub => once ++ once
  | .subsub => once ++ once ++ once

def Walk.run : Walk → List (Item α) → List Xml.Token
  | w, [] => closeAll w.depth
  | w, i :: items =>
    let r := w.step anchor i
    r.1 ++ run r.2 items

def tokens (style : Style) (items : List (Item α)) : List Xml.Token :=
  [.start "div".toList [("class".toList, "index ".toList ++ style.cssClass)] quote, newline,
    .start style.headingTag [] ['"'], .data style.heading, .finish style.headingTag, newline,
    list "main", newline] ++
  Walk.initial.run anchor items ++ [.finish "div".toList, newline]

structure Options where
  separator : Text
  escape : Text
  useIndices : Bool
  style : Style

/-- Whether an index can be printed. If several are in use, only the main one can. -/
def Options.prints (o : Options) (index : Option Text) : Bool :=
  !o.useIndices || index == some mainIndex

def print (o : Options) (index : Option Text) (items : List (Item α)) : Text :=
  if o.prints index && !items.isEmpty then Xml.write (tokens anchor o.style (sort items)) else []

def render (o : Options) (index : Option Text) (rows : List (Row α)) : Except RowError Text :=
  if o.prints index then
    return print anchor o index (← collect o.separator o.escape rows)
  else return []

end BookIndex.Xhtml
