import BookIndex.Text.Basic

namespace BookIndex

def mainIndex : Text := "idx".toList

structure Occurrence where
  markup : Text
  /-- The markup without its commands; it may be empty. -/
  plain : Text
  position : Option Text
  index : Text
  deriving DecidableEq, Repr

end BookIndex
