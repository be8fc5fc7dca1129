import BookIndex.Occurrence
import BookIndex.Tex.Plain

namespace BookIndex.Tex

def macroNames : List Text :=
  ["is", "isi", "il", "ili", "in", "ini", "index", "sindex", "nindex", "lindex"].map String.toList

/-- The body up to the brace that closes it, read inside or outside of inner braces. -/
def bodyFrom? : (inner : Bool) → Text → Option Text
  | _, [] => none
  | inner, c :: s =>
    if c = '}' then if inner then (bodyFrom? false s).map (c :: ·) else some []
    else if c = '{' then if inner then none else (bodyFrom? true s).map (c :: ·)
    else (bodyFrom? inner s).map (c :: ·)

structure Macro where
  name : Text
  /-- The optional argument with its brackets; it may be missing. -/
  option : Text
  body : Text
  deriving DecidableEq, Repr

namespace Macro

def tail (m : Macro) : Text := m.name ++ m.option ++ '{' :: m.body ++ ['}']

def named? (name s : Text) : Option Macro := do
  let rest ← name.isPrefixOf? s
  let option := rest.take (optionLength rest)
  let afterOption := rest.drop option.length
  if afterOption.head? = some '{' then
    let body ← bodyFrom? false afterOption.tail
    return ⟨name, option, body⟩
  else none

def ofTail? (s : Text) : Option Macro := macroNames.findSome? (named? · s)

end Macro

def isBracket (c : Char) : Bool := c == '[' || c == ']'

def indexOf (name option : Text) : Text :=
  if option.isEmpty then
    if ["il", "ili", "lindex"].any (·.toList == name) then "language".toList
    else if ["in", "ini", "nindex"].any (·.toList == name) then "name".toList
    else mainIndex
  else
    let index := Text.trim (Text.trimBy isBracket option)
    if index.isEmpty then mainIndex else index

def positionText (source : Text) (line : Nat) : Text :=
  if source.isEmpty then Text.ofNat line else source ++ ':' :: Text.ofNat line

def Macro.occurrence? (source : Text) (line : Nat) (m : Macro) : Option Occurrence :=
  let markup := Text.trim m.body
  if markup.isEmpty then none
  else some ⟨markup, plain markup, some (positionText source line), indexOf m.name m.option⟩

/-- Where a scan stands: the character before, whether it is in a comment, and the line. -/
structure Place where
  prev : Option Char
  comment : Bool
  line : Nat
  deriving DecidableEq, Repr

namespace Place

def start : Place := ⟨none, false, 1⟩

/-- Whether the character `c` at a place belongs to a comment: a percent sign starts one, unless a
backslash stands before it. -/
def commented (p : Place) (c : Char) : Bool := p.comment || (c == '%' && p.prev != some '\\')

def next (p : Place) (c : Char) : Place :=
  if c = '\n' then ⟨some c, false, p.line + 1⟩ else ⟨some c, p.commented c, p.line⟩

end Place

/-- `scan` at a place, the first `skip` characters belonging to a macro. -/
def scanFrom (source : Text) : Place → Nat → Text → List Occurrence
  | _, _, [] => []
  | p, skip + 1, c :: s => scanFrom source (p.next c) skip s
  | p, 0, c :: s =>
    if c = '\\' then
      match Macro.ofTail? s with
      | some m =>
        let found := if p.commented c then none else m.occurrence? source p.line
        found.toList ++ scanFrom source (p.next c) m.tail.length s
      | none => scanFrom source (p.next c) 0 s
    else scanFrom source (p.next c) 0 s

def scan (source content : Text) : List Occurrence := scanFrom source .start 0 content

end BookIndex.Tex
