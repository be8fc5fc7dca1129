import BookIndex.Xml.Tag

namespace BookIndex.DocBook

inductive Reference where
  | none
  | see (target : Text)
  | seeAlso (targets : List Text)
  deriving DecidableEq, Repr

inductive IndexTerm where
  /-- The end of the range with an identifier. -/
  | rangeEnd (startRef : Text)
  /-- A term of an index, with the identifier of the range that it starts, if any. -/
  | term (index : Option Text) (rangeId : Option Text) (sortAs : Option Text) (levels : List Text)
      (reference : Reference)
  deriving DecidableEq, Repr

namespace IndexTerm

def levelNames : List Text := ["primary".toList, "secondary".toList, "tertiary".toList]

def quote : Text := ['"']

def levelTokens (sortAs : Option Text) : List (Text × Text) → List Xml.Token
  | [] => []
  | (name, level) :: rest =>
    Xml.element name level (sortAs.toList.map ("sortas".toList, ·)) quote ++
      rest.flatMap fun (name, level) ↦ Xml.element name level [] quote

def referenceTokens : Reference → List Xml.Token
  | .none => []
  | .see target => Xml.element "see".toList target [] quote
  | .seeAlso targets => targets.flatMap fun t ↦ Xml.element "seealso".toList t [] quote

def tokens : IndexTerm → List Xml.Token
  | rangeEnd startRef =>
    [.empty "indexterm".toList
      [("class".toList, "endofrange".toList), ("startref".toList, startRef)] quote]
  | term index rangeId sortAs levels reference =>
    let range := rangeId.toList.flatMap fun id ↦
      [("class".toList, "startofrange".toList), ("xml:id".toList, id)]
    [.start "indexterm".toList (index.toList.map ("type".toList, ·) ++ range) quote] ++
      levelTokens sortAs (levelNames.zip levels) ++ referenceTokens reference ++
      [.finish "indexterm".toList]

end IndexTerm
end BookIndex.DocBook
