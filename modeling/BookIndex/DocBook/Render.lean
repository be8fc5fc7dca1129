import BookIndex.Diagnostic
import BookIndex.DocBook.IndexTerm
import BookIndex.DocBook.RangeTable
import BookIndex.Markup.Entry

namespace BookIndex.DocBook

open Markup

/-- Reads an entry whose one sort key stands before its levels. Blank levels do not count. -/
def parse (esc : Text) (raw : Text) : Entry :=
  let parts := splitCommand esc raw
  let keyed := match splitNonempty isSortSeparator esc parts.1 with
    | [key, terms] => (some key, terms)
    | _ => (none, parts.1)
  { levels := splitNonempty isLevelSeparator esc keyed.2
    commandText := parts.2
    command := .ofText? parts.2
    sortKey := keyed.1
    position := none }

structure Options where
  escape : Text
  useIndices : Bool

def Options.index? (o : Options) : Option Text → Option Text
  | some index => if o.useIndices && !index.isEmpty then some index else none
  | none => none

def reference : Command → Reference
  | .see target _ _ => .see target
  | .seeAlso targets _ => .seeAlso targets
  | _ => .none

def indexTerm (o : Options) (table : RangeTable) (index : Option Text) (e : Entry) :
    IndexTerm × RangeTable :=
  match e.command.kind with
  | .rangeEnd =>
    let (id, table) := table.step e.termPath true
    (.rangeEnd id, table)
  | .rangeStart =>
    let (id, table) := table.step e.termPath false
    (.term (o.index? index) (some id) e.sortKey e.levels .none, table)
  | _ => (.term (o.index? index) none e.sortKey e.levels (reference e.command), table)

def problems (raw : Text) (e : Entry) : List Diagnostic :=
  let complete := " Complete entry: \"".toList ++ raw ++ ['"']
  (if Text.occurs ['@', '\\'] raw then
    [⟨.unsupportedSortMarkup,
      "Unsupported feature: an index entry contains an @\\.".toList ++ complete, raw⟩] else []) ++
  (if e.command.hasMoreTargets then
    [⟨.multipleSeeTargets,
      "Several index terms found as \"see\"! Only one is acceptable.".toList ++ complete, raw⟩]
    else []) ++
  (if e.command.leftover.isEmpty then [] else
    [⟨.unsupportedTrailingCommand,
      "Unsupported feature: an index entry contains a | with an unsupported command, ".toList ++
        e.command.leftover ++ ['.'] ++ complete, raw⟩]) ++
  (if e.levels.isEmpty && e.command.kind != .rangeEnd then
    [⟨.noTermFound, "No index term found!".toList ++ complete, raw⟩] else [])

structure Result where
  diagnostics : List Diagnostic
  /-- The element, unless the entry has no term. -/
  term : Option IndexTerm
  table : RangeTable

def Result.output (r : Result) : Text :=
  r.diagnostics.flatMap Diagnostic.comment ++ (r.term.map fun t ↦ Xml.write t.tokens).getD []

/-- Renders an entry. Without a term it has no element, and the table stays as it is. -/
def render (o : Options) (table : RangeTable) (raw : Text) (index : Option Text) : Result :=
  let raw := Text.trim raw
  let e := parse o.escape raw
  let log := problems raw e
  if log.any (·.kind == .noTermFound) then ⟨log, none, table⟩
  else
    let (term, table) := indexTerm o table index e
    ⟨log, some term, table⟩

def renderAll (o : Options) : RangeTable → List (Text × Option Text) → List Result
  | _, [] => []
  | table, (raw, index) :: rest =>
    let r := render o table raw index
    r :: renderAll o r.table rest

end BookIndex.DocBook
