import BookIndex.Xml.Id

namespace BookIndex.DocBook

structure RangeTable where
  /-- The term paths that were closed, each once. -/
  seen : List Text
  /-- How often a term path was closed again. -/
  counter : Int
  deriving DecidableEq, Repr

namespace RangeTable

def empty : RangeTable := ⟨[], 0⟩

/-- The identifier of a range that starts or ends now. -/
def identifier (t : RangeTable) (path : Text) : Text :=
  Xml.cleanId (if path ∈ t.seen then path ++ '-' :: Text.ofInt t.counter else path)

def close (t : RangeTable) (path : Text) : RangeTable :=
  if path ∈ t.seen then { t with counter := t.counter + 1 } else { t with seen := path :: t.seen }

def step (t : RangeTable) (path : Text) (ends : Bool) : Text × RangeTable :=
  (t.identifier path, if ends then t.close path else t)

theorem mem_close_seen (t : RangeTable) (path p : Text) :
    p ∈ (t.close path).seen ↔ p = path ∨ p ∈ t.seen := by
  unfold close
  split
  · rename_i h
    simp only [iff_or_self]
    rintro rfl
    exact h
  · simp

theorem counter_close (t : RangeTable) (path : Text) :
    (t.close path).counter + (t.close path).seen.length = t.counter + t.seen.length + 1 := by
  unfold close
  split <;> simp <;> omega

end RangeTable
end BookIndex.DocBook
