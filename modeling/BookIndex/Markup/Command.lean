import BookIndex.Text.Basic

namespace BookIndex.Markup

inductive CommandKind where
  | none | format | see | seeAlso | rangeStart | rangeEnd
  deriving DecidableEq, Repr

namespace CommandKind

def name : CommandKind → Text
  | none => "none".toList
  | format => "format".toList
  | see => "see".toList
  | seeAlso => "seealso".toList
  | rangeStart => "range_start".toList
  | rangeEnd => "range_end".toList

def all : List CommandKind := [none, format, see, seeAlso, rangeStart, rangeEnd]

def isRange : CommandKind → Bool
  | rangeStart | rangeEnd => true
  | _ => false

end CommandKind

/-- What a command says. Only the first target of `see` is kept, with a note of whether there were
more; `rest` is the text that belongs to no rule. -/
inductive Command where
  | none
  | format (style : Text)
  | see (target : Text) (more : Bool) (rest : Text)
  | seeAlso (targets : List Text) (rest : Text)
  | rangeStart (rest : Text)
  | rangeEnd (rest : Text)
  deriving DecidableEq, Repr

namespace Command

def kind : Command → CommandKind
  | none => .none
  | format _ => .format
  | see .. => .see
  | seeAlso .. => .seeAlso
  | rangeStart _ => .rangeStart
  | rangeEnd _ => .rangeEnd

def targets : Command → List Text
  | see target _ _ => [target]
  | seeAlso targets _ => targets
  | _ => []

def leftover : Command → Text
  | none => []
  | format style => style
  | see _ _ rest | seeAlso _ rest | rangeStart rest | rangeEnd rest => rest

def hasMoreTargets : Command → Bool
  | see _ more _ => more
  | _ => false

/-- Takes a range marker away, in front and behind any bar, and says whether there was one. A bar
that goes may bring another marker to the front, which goes too. -/
def dropMarker (marker : Char) (s : Text) : Bool × Text :=
  let embedded := ['|', marker]
  if s.head? == some marker || Text.occurs embedded s then
    let s := Text.replace embedded [] s
    (true, if s.head? == some marker then s.tail else s)
  else (false, s)

/-- The range that a command opens or closes; an opening marker wins over a closing one. -/
def range? (s : Text) : Option Command :=
  let opening := dropMarker '(' s
  let closing := dropMarker ')' opening.2
  if opening.1 then some (.rangeStart closing.2)
  else if closing.1 then some (.rangeEnd closing.2)
  else Option.none

def unescapeBraces (s : Text) : Text :=
  Text.replace ['\\', '}'] ['}'] (Text.replace ['\\', '{'] ['{'] s)

def body (s : Text) : Text × Text := (Text.cut? ['}'] s).getD (s, [])

def targetsOf (s : Text) : List Text := ((s.splitOn ',').map Text.trim).filter (!·.isEmpty)

def reference? (s : Text) : Option Command :=
  let s := unescapeBraces s
  match "seealso\x7b".toList.isPrefixOf? s with
  | some s =>
    match targetsOf (body s).1 with
    | [] => Option.none
    | targets => some (.seeAlso targets (body s).2)
  | Option.none =>
    match "see\x7b".toList.isPrefixOf? s with
    | some s =>
      match targetsOf (body s).1 with
      | [] => Option.none
      | target :: others => some (.see target (!others.isEmpty) (body s).2)
    | Option.none => Option.none

def ofText (s : Text) : Command :=
  match range? s with
  | some range => range
  | Option.none =>
    match reference? s with
    | some reference => reference
    | Option.none => if s.allBlank then none else format s

def ofText? : Option Text → Command
  | Option.none => none
  | some s => ofText s

@[simp] theorem ofText_nil : ofText [] = none := rfl

end Command
end BookIndex.Markup
