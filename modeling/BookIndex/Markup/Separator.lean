import BookIndex.Text.Basic

namespace BookIndex.Markup

def defaultEscape : Text := ['"']

/-- Whether the text behind `prev` is escaped. Only an escape of one character ever escapes. -/
def escapes (esc : Text) (prev : Option Char) : Bool := prev.any esc.isChar

section

variable (sep : Char → Bool) (esc : Text)

def piecesFrom : Option Char → Text → Text × List Text
  | _, [] => ([], [])
  | prev, c :: s =>
    let rest := piecesFrom (some c) s
    if sep c && !escapes esc prev then ([], rest.1 :: rest.2) else (c :: rest.1, rest.2)

/-- The texts between the unescaped separators, one more than there are separators. -/
def pieces (s : Text) : List Text :=
  (piecesFrom sep esc none s).1 :: (piecesFrom sep esc none s).2

def split (s : Text) : List Text := (pieces sep esc s).map Text.trim

def splitNonempty (s : Text) : List Text := (split sep esc s).filter (!·.isEmpty)

/-- The indices of the unescaped separators of a text that stands behind `prev` at index `i`. -/
def positionsFrom : Option Char → Nat → Text → List Nat
  | _, _, [] => []
  | prev, i, c :: s =>
    let rest := positionsFrom (some c) (i + 1) s
    if sep c && !escapes esc prev then i :: rest else rest

def positions (s : Text) : List Nat := positionsFrom sep esc none 0 s

def cutFrom : Option Char → Text → Option (Text × Text)
  | _, [] => none
  | prev, c :: s =>
    if sep c && !escapes esc prev then some ([], s)
    else (cutFrom (some c) s).map fun r ↦ (c :: r.1, r.2)

def cut? (s : Text) : Option (Text × Text) := cutFrom sep esc none s

variable {sep esc}

@[simp] theorem escapes_none : escapes esc none = false := rfl

@[simp] theorem escapes_nil (prev : Option Char) : escapes [] prev = false := by
  cases prev <;> rfl

theorem escapes_singleton (e c : Char) : escapes [e] (some c) = true ↔ e = c := by
  simp [escapes, Text.isChar]

theorem length_pieces (s : Text) :
    (pieces sep esc s).length = (positions sep esc s).length + 1 := by
  have key : ∀ (s : Text) (prev : Option Char) (i : Nat),
      (piecesFrom sep esc prev s).2.length = (positionsFrom sep esc prev i s).length := by
    intro s
    induction s with
    | nil => simp [piecesFrom, positionsFrom]
    | cons c s ih =>
      intro prev i
      simp only [piecesFrom, positionsFrom]
      split <;> simp [ih (some c) (i + 1)]
  simp [pieces, positions, key s none 0]

end

end BookIndex.Markup
