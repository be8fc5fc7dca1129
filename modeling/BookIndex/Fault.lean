import BookIndex.Text.Basic

namespace BookIndex

/-- What goes wrong in the parts that a program is given: a text has not the form of any value, a
name is not known, a value is not fit for what is asked of it, or anything else. -/
inductive Fault where
  | form (message : Text)
  | unknown (message : Text)
  | unfit (message : Text)
  | other (message : Text)
  deriving DecidableEq, Repr

def Fault.message : Fault → Text
  | form message | unknown message | unfit message | other message => message

end BookIndex
