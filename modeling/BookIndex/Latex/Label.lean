import BookIndex.Occurrence

namespace BookIndex.Latex

def unsafeChars : List Char := "=%#$\x7b\x7d[]&\\".toList

def hexDigit (n : Nat) : Char := if n < 10 then Char.ofNat (0x30 + n) else Char.ofNat (0x37 + n)

def escapeByte (b : UInt8) : Text := ['=', hexDigit (b.toNat / 16), hexDigit (b.toNat % 16)]

def escapeLabel (s : Text) : Text :=
  s.flatMap fun c ↦
    if 128 ≤ c.toNat || unsafeChars.contains c then (String.utf8EncodeChar c).flatMap escapeByte
    else [c]

/-- The index that an entry goes to by its label, if several indices are in use. -/
def namedIndex? (useIndices : Bool) : Option Text → Option Text
  | none => none
  | some index => if useIndices && !index.isEmpty && index != mainIndex then some index else none

def indexMacro (useIndices : Bool) (index : Option Text) : Text :=
  match namedIndex? useIndices index with
  | some index => "\\sindex[".toList ++ escapeLabel index ++ "]\x7b".toList
  | none => "\\index\x7b".toList

/-- The command that prints an index. One index alone can only be the main one. -/
def printIndex (useIndices subindex printAll : Bool) (index : Option Text) : Text :=
  if !useIndices then if index == some mainIndex then "\\printindex".toList else []
  else
    let name := if subindex then "\\printsubindex".toList else "\\printindex".toList
    if printAll then name ++ ['*']
    else match index with
      | none | some [] => name
      | some index => name ++ '[' :: escapeLabel index ++ [']']

end BookIndex.Latex
