import BookIndex.Value.Basic

namespace BookIndex.Document

/-- A format of stored values: the value that a text says, and the text that a value is written as. -/
structure Format where
  parse : Text → Except Fault Value
  print : Value → Text

namespace Format

/-- A value that is written and read again. Line ends are unified on the way. -/
def Keeps (f : Format) (v : Value) : Prop := f.parse (Text.unifyLines (f.print v)) = .ok v

def ofTexts (texts : List (Text × Value)) : Format where
  parse s := ((texts.lookup s).map .ok).getD (.error (.form []))
  print v := ((texts.find? fun t ↦ t.2.toText.toOption == v.toText.toOption).map Prod.fst).getD []

theorem parse_ofTexts {texts : List (Text × Value)} {s : Text} {v : Value}
    (h : texts.lookup s = some v) : (ofTexts texts).parse s = .ok v := by
  simp only [ofTexts, h, Option.map_some, Option.getD_some]

end Format
end BookIndex.Document
