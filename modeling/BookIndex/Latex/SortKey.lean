import BookIndex.Diagnostic
import BookIndex.Encoding.Codec
import BookIndex.Markup.Entry

namespace BookIndex.Latex

open Markup

def needsSortKey (esc : Text) (level : Text) : Bool :=
  level.contains '\\' && (cut? isSortSeparator esc level).isNone

/-- A key without backslashes, but for one before every escape character. -/
def protectKey (esc : Text) (key : Text) : Text :=
  let key := Text.replace ['\\'] [] key
  if esc.isEmpty then key else Text.replace esc ('\\' :: esc) key

/-- What the key of a level is made from: its plain text, or else the level. -/
def keySource (level plain : Text) : Text := if plain.isEmpty then level else plain

/-- Reports the characters that a key lost, and, unless it is a preview, that it was changed. -/
def keyDiagnostics (preview : Bool) (level source : Text) (written : Text × Text) :
    List Diagnostic :=
  (if written.2.isEmpty then []
    else [⟨.uncodableSortCharacter, "Uncodable character in index entry '".toList ++ source ++
      "'. Sorting might be wrong!".toList, level⟩]) ++
  (if written.1 == source || preview then []
    else [⟨.sortKeyMismatch, "Automatic index sorting faced problems with the entry '".toList ++
      source ++ "'. Please specify the sorting of this entry manually.".toList, level⟩])

def sortKey (validator : Validator) (preview : Bool) (esc : Text) (level plain : Text) :
    Except Fault (Text × List Diagnostic) := do
  let source := keySource level plain
  let written ← validator preview source
  return (protectKey esc written.1, keyDiagnostics preview level source written)

theorem sortKey_charset (s : Charset) (preview : Bool) (esc level plain : Text) :
    let source := keySource level plain
    sortKey (Codec.charset s).validator preview esc level plain =
      .ok (protectKey esc (s.write preview source).1,
        keyDiagnostics preview level source (s.write preview source)) := by
  simp only [sortKey, Codec.validator_charset]
  rfl

end BookIndex.Latex
