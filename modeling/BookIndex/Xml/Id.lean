import BookIndex.Text.Letter

namespace BookIndex.Xml

def isIdChar (c : Char) : Bool := Text.isWord c || c == '.' || c == '-'

def idChar (c : Char) : Char := if isIdChar c then c else '_'

def isIdStart (c : Char) : Bool := Text.isLetter c || c == '_'

/-- The identifier made from a text; different texts may give the same. -/
def cleanId (s : Text) : Text :=
  match s.map idChar with
  | [] => ['_']
  | c :: rest => if isIdStart c then c :: rest else '_' :: c :: rest

end BookIndex.Xml
