import BookIndex.Document.Format
import BookIndex.Flow.Stored
import BookIndex.Flow.Written

namespace BookIndex.Flow

/-- The format that the program itself runs with: texts are read in flow style or as they stand, and
values are written in flow style. -/
def format : Document.Format where
  parse s :=
    match read? s with
    | some v => .ok v
    | none => .error (.form [])
  print v := print (reread v) ++ ['\n']

end BookIndex.Flow
