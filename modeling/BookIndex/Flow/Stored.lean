import BookIndex.Flow.Syntax

namespace BookIndex.Flow

def lines (s : Text) : List Text := s.splitBy fun a _ ↦ !isBreak a

/-- Whether a line starts or ends the text of a value: with three hyphens or points before a gap. No
other line of a value does, not even between quotes. -/
def isMarker (line : Text) : Bool :=
  (line.take 3 == "---".toList || line.take 3 == "...".toList) && (line.drop 3).head?.all isGap

def content? (s : Text) : Option Text :=
  let s := if s.head? = some '\uFEFF' then s.tail else s
  let (before, marked) := (lines s).span fun line ↦ !isMarker line
  match marked with
  | [] => some (skip s)
  | line :: rest =>
    if line.head? = some '-' && (skip before.flatten).isEmpty && !rest.any isMarker then
      some (skip (line.drop 3 ++ rest.flatten))
    else none

def indicators : Text := "-?:,[]\x7b\x7d#&*!|>'\"%@\x60".toList

def startsBare : Text → Bool
  | [] => false
  | c :: s =>
    (!isGap c && !indicators.contains c) ||
      (['-', '?', ':'].contains c && !s.isEmpty && !s.head?.any isGap)

def fold (s : Text) : Text := (s.splitBy fun a b ↦ isGap a == isGap b).flatMap foldGap

/-- A text that stands for itself, up to its gaps. There is no tab in it or behind it, no colon
before a gap, and no number sign behind one. -/
def bare? (s : Text) : Option Text :=
  if s.contains '\t' then none
  else
    let s := (s.reverse.dropWhile isGap).reverse
    let pairs := s.zip (s.tail ++ ['\n'])
    let allowed (a b : Char) : Bool := !(a == ':' && isGap b) && !(isGap a && b == '#')
    if startsBare s && pairs.all (fun (a, b) ↦ allowed a b) then some (fold s) else none

def ofBare? (s : Text) : Option Value :=
  if ["~", "null", "Null", "NULL"].any (·.toList == s) then some .null
  else if ["=", "<<"].any (·.toList == s) then none
  else some (.text s)

def read? (s : Text) : Option Value := do
  guard (s.all isReadable)
  let s ← content? s
  if s.isEmpty then return .null
  else flow? s <|> (bare? s).bind ofBare?

end BookIndex.Flow
