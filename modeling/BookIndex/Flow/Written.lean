import BookIndex.Flow.Syntax

namespace BookIndex.Flow

def literalRanges : Text.Ranges :=
  [(0x0A, 0x0A), (0x20, 0x7E), (0x85, 0x85), (0xA0, 0xD7FF), (0xE000, 0xFEFE), (0xFF00, 0xFFFD),
    (0x10000, 0x10FFFE)]

def needsEscapes (s : Text) : Bool :=
  !s.all literalRanges.has ||
    (s.zip s.tail).any fun (a, b) ↦ (a == ' ' && isBreak b) || (isBreak a && b == ' ')

def rereadRun (run : Text) : Text :=
  foldGap (if run.head? = some '\n' then '\n' :: run else run)

def rereadText (s : Text) : Text :=
  if needsEscapes s then s
  else (s.splitBy fun a b ↦ isBreak a == isBreak b).flatMap rereadRun

mutual

def reread : Value → Value
  | .text s => .text (rereadText s)
  | .list items => .list (rereadItems items)
  | .mapping fields => .mapping (rereadFields fields)
  | v => v

def rereadItems : List Value → List Value
  | [] => []
  | v :: vs => reread v :: rereadItems vs

def rereadFields : List (Value × Value) → List (Value × Value)
  | [] => []
  | (k, v) :: rest => (reread k, reread v) :: rereadFields rest

end

end BookIndex.Flow
