import BookIndex.Text.Quoted

namespace BookIndex

inductive DiagnosticKind where
  | uncodableSortCharacter | sortKeyMismatch | unsupportedTrailingCommand | multipleSeeTargets
  | noTermFound | unsupportedSortMarkup
  deriving DecidableEq, Repr

namespace DiagnosticKind

def name : DiagnosticKind → Text
  | uncodableSortCharacter => "uncodable_sort_character".toList
  | sortKeyMismatch => "sort_key_mismatch".toList
  | unsupportedTrailingCommand => "unsupported_trailing_command".toList
  | multipleSeeTargets => "multiple_see_targets".toList
  | noTermFound => "no_term_found".toList
  | unsupportedSortMarkup => "unsupported_sort_markup".toList

def all : List DiagnosticKind :=
  [uncodableSortCharacter, sortKeyMismatch, unsupportedTrailingCommand, multipleSeeTargets,
    noTermFound, unsupportedSortMarkup]

def ofName? (name : Text) : Option DiagnosticKind := all.find? (·.name == name)

structure UnknownName where
  name : Text
  deriving DecidableEq, Repr

def UnknownName.message (e : UnknownName) : Text :=
  Text.quoted e.name ++ " is not a valid DiagnosticKind".toList

def ofName (name : Text) : Except UnknownName DiagnosticKind :=
  match ofName? name with
  | some kind => .ok kind
  | none => .error ⟨name⟩

theorem ofName?_name (kind : DiagnosticKind) : ofName? kind.name = some kind := by
  cases kind <;> decide

end DiagnosticKind

structure Diagnostic where
  kind : DiagnosticKind
  message : Text
  entry : Text
  deriving DecidableEq, Repr

namespace Diagnostic

/-- The diagnostic as a comment of the output. Two hyphens end a comment and are parted. -/
def comment (d : Diagnostic) : Text :=
  "<!-- Output Error: ".toList ++ Text.replace "--".toList "- -".toList d.message ++ " -->\n".toList

def ofKind (kind : DiagnosticKind) (log : List Diagnostic) : List Diagnostic :=
  log.filter (·.kind == kind)

end Diagnostic
end BookIndex
