import BookIndex.Occurrence
import BookIndex.Settings

namespace BookIndex

structure Document where
  occurrences : List Occurrence
  settings : Value.Fields
  deriving Repr

namespace Document

def empty : Document := ⟨[], []⟩

inductive LoadError where
  | notMapping
  | settingsNotMapping
  /-- The occurrence with a number, counted from one, has no markup. -/
  | noMarkup (number : Nat)
  /-- The occurrences are a value of a kind that has no members. -/
  | notIterable (kind : Text)
  /-- A field of an occurrence has no text. -/
  | fault (e : Fault)
  deriving DecidableEq, Repr

namespace LoadError

def message (path : Text) : LoadError → Text
  | notMapping => path ++ ": expected a mapping at top level".toList
  | settingsNotMapping => path ++ ": 'settings' must be a mapping".toList
  | noMarkup number =>
    path ++ ": occurrence ".toList ++ Text.ofNat number ++ " has no markup".toList
  | notIterable kind => '\'' :: kind ++ "' object is not iterable".toList
  | fault e => e.message

def isReported : LoadError → Bool
  | notIterable _ | fault _ => false
  | _ => true

end LoadError

def textOr (default : Text) (fields : Value.Fields) (name : String) : Except Fault Text :=
  let v := Value.get fields name
  if v.truthy then v.toText else .ok default

/-- The occurrence that a value stands for: a text is its markup, a mapping has to have one. -/
def occurrence? : Value → Option (Except Fault Occurrence)
  | .text s => some (.ok ⟨s, [], none, mainIndex⟩)
  | .mapping fields =>
    (Value.field? fields "markup").map fun markup ↦ do
      let markup ← markup.toText
      let plain ← textOr [] fields "plain"
      let position ← (Value.get fields "position").toText?
      let index ← textOr mainIndex fields "index"
      return ⟨markup, plain, position, index⟩
  | _ => none

def members (v : Value) : Except LoadError (List Value) :=
  if v.truthy then
    match v.members? with
    | some vs => .ok vs
    | none => .error (.notIterable v.kindName)
  else .ok []

/-- The occurrences of the members from the one with a number on, up to the first one that has no
markup or no text, and that error. -/
def readFrom (number : Nat) : List Value → List Occurrence × Option LoadError
  | [] => ([], none)
  | v :: vs =>
    match occurrence? v with
    | none => ([], some (.noMarkup number))
    | some (.error e) => ([], some (.fault e))
    | some (.ok occurrence) =>
      let rest := readFrom (number + 1) vs
      (occurrence :: rest.1, rest.2)

/-- Loads a value into a document. Nothing at all leaves the document as it is. -/
def load (doc : Document) : Value → Document × Option LoadError
  | .null => (doc, none)
  | .mapping fields =>
    let settings := Value.get fields "settings"
    match settings.truthy, settings with
    | true, .mapping settings => loadOccurrences settings fields
    | true, _ => (doc, some .settingsNotMapping)
    | false, _ => loadOccurrences [] fields
  | _ => (doc, some .notMapping)
where
  loadOccurrences (settings fields : Value.Fields) : Document × Option LoadError :=
    match members (Value.get fields "occurrences") with
    | .ok vs => (⟨(readFrom 1 vs).1, settings⟩, (readFrom 1 vs).2)
    | .error e => (⟨[], settings⟩, some e)

def add (doc : Document) (o : Occurrence) : Document :=
  { doc with occurrences := doc.occurrences ++ [o] }

def forIndex (doc : Document) (index : Text) : List Occurrence :=
  doc.occurrences.filter (·.index == index)

def indexIds (doc : Document) : List Text := (doc.occurrences.map (·.index)).eraseDups

def occurrenceValue (o : Occurrence) : Value :=
  .ofFields [("markup".toList, .text o.markup), ("plain".toList, .text o.plain),
    ("position".toList, o.position.elim .null .text), ("index".toList, .text o.index)]

def toValue (doc : Document) : Value :=
  .ofFields <| ("occurrences".toList, .list (doc.occurrences.map occurrenceValue)) ::
    if doc.settings.isEmpty then [] else [("settings".toList, .mapping doc.settings)]

end Document
end BookIndex
