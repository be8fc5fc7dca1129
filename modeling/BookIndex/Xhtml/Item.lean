import BookIndex.Markup.Entry
import BookIndex.Value.Basic

namespace BookIndex.Xhtml

open Markup

structure Row (α : Type) where
  markup : Text
  plain : Text
  position : α

inductive RowError where
  | emptySeparator
  | missingFields (found : Nat)
  deriving DecidableEq, Repr

def RowError.message : RowError → Text
  | emptySeparator => "empty separator".toList
  | missingFields found =>
    "not enough values to unpack (expected at least 3, got ".toList ++ Text.ofNat found ++ [')']

def Row.ofValues : List Value → Except RowError (Row Value)
  | markup :: plain :: position :: _ =>
    .ok ⟨markup.asText?.getD [], plain.asText?.getD [], position⟩
  | vs => .error (.missingFields vs.length)

/-- The three levels of an entry; what follows a second separator belongs to the third level. -/
def subentries (separator entry : Text) : Except RowError Heading :=
  if entry.isEmpty then .ok ⟨[], [], []⟩
  else if separator.isEmpty then .error .emptySeparator
  else match Text.cut? separator entry with
    | none => .ok ⟨Text.trim entry, [], []⟩
    | some (main, rest) =>
      match Text.cut? separator rest with
      | none => .ok ⟨Text.trim main, Text.trim rest, []⟩
      | some (sub, subsub) => .ok ⟨Text.trim main, Text.trim sub, Text.trim subsub⟩

def withoutCommand (esc level : Text) : Text := (splitCommand esc level).1

/-- The side of a level that is shown: what stands behind its sort key, without the command. -/
def displaySide (esc level : Text) : Text :=
  withoutCommand esc <| match cut? isSortSeparator esc level with
    | some (_, display) => display
    | none => level

/-- The side of a level that is sorted: its sort key or the level itself, without the command. -/
def sortSide (esc level : Text) : Text :=
  withoutCommand esc <| match cut? isSortSeparator esc level with
    | some (key, _) => key
    | none => level

structure Item (α : Type) where
  key : Heading
  display : Heading
  position : α
  deriving DecidableEq, Repr

variable {α : Type}

/-- The item of a row. Each level shown comes from the plain text, or from the markup where the
plain level is empty. -/
def Item.ofRow (separator esc : Text) (row : Row α) : Except RowError (Item α) := do
  let markup ← subentries separator row.markup
  let plain ← subentries separator row.plain
  return ⟨markup.map (sortSide esc),
    (plain.map (displaySide esc)).orElse (markup.map (displaySide esc)), row.position⟩

def collect (separator esc : Text) (rows : List (Row α)) : Except RowError (List (Item α)) :=
  rows.mapM (Item.ofRow separator esc)

def Item.le (a b : Item α) : Bool := a.key.lower.le b.key.lower

def sort (items : List (Item α)) : List (Item α) := items.mergeSort Item.le

end BookIndex.Xhtml
