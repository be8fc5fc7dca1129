import BookIndex.CommandLine.Event
import BookIndex.DocBook.Render
import BookIndex.Document.Basic
import BookIndex.Latex.Render
import BookIndex.Xhtml.Render

namespace BookIndex.CommandLine

open Markup

def endLine (line : Text) : Text := if line.getLast? = some '\n' then line else line ++ ['\n']

def joinLines (lines : List Text) : Text := lines.flatMap endLine

structure Lines (ε : Type) where
  lines : List Text
  events : List Event
  failure : Option ε

namespace Lines

variable {ε : Type}

def empty : Lines ε := ⟨[], [], none⟩

def before (lines : List Text) (events : List Event) (rest : Lines ε) : Lines ε :=
  ⟨lines ++ rest.lines, events ++ rest.events, rest.failure⟩

end Lines

def detailEvents (o : Latex.Options) (occ : Occurrence) : List Event :=
  if Latex.plainLacksCommand o occ.markup occ.plain then [.plainLacksCommand occ.markup] else []

def latexLines (o : Latex.Options) : List Occurrence → Lines Fault
  | [] => .empty
  | occ :: rest =>
    match Latex.render o occ.markup occ.plain (some occ.index) with
    | .error e => ⟨[], detailEvents o occ, some e⟩
    | .ok (line, log) =>
      (latexLines o rest).before [line] (detailEvents o occ ++ log.map .diagnostic)

def printLines (useIndices : Bool) (doc : Document) : List Text :=
  (doc.indexIds.map fun index ↦ Latex.printIndex useIndices false false (some index)).filter
    (!·.isEmpty)

def docbookLines {ε : Type} (o : DocBook.Options) (occs : List Occurrence) : Lines ε :=
  let results := DocBook.renderAll o .empty (occs.map fun occ ↦ (occ.markup, some occ.index))
  ⟨results.map (·.output), results.flatMap fun r ↦ r.diagnostics.map .diagnostic, none⟩

def xhtmlRow (occ : Occurrence) : Xhtml.Row (Option Text) := ⟨occ.markup, occ.plain, occ.position⟩

def xhtmlLines (o : Xhtml.Options) (index : Option Text) (occs : List Occurrence) :
    Lines Xhtml.RowError :=
  match Xhtml.render Xhtml.anchorId o index (occs.map xhtmlRow) with
  | .ok output => ⟨[output], [], none⟩
  | .error e => ⟨[], [], some e⟩

def reportLine (occ : Occurrence) (d : Diagnostic) : Text :=
  let position := match occ.position with
    | none | some [] => ['?']
    | some position => position
  "  ".toList ++ position ++ ": ".toList ++ d.kind.name ++ ": ".toList ++ d.message

/-- What the report tells of the occurrences, and the log that both outputs write their diagnostics
to. Behind each occurrence the report tells what is new in the log. -/
def diagnosticLines (l : Latex.Options) (d : DocBook.Options) (table : DocBook.RangeTable)
    (log : List Diagnostic) : List Occurrence → Lines Fault × List Diagnostic
  | [] => (.empty, log)
  | occ :: rest =>
    match Latex.render l occ.markup occ.plain (some occ.index) with
    | .error e => (⟨[], detailEvents l occ, some e⟩, log)
    | .ok (_, reports) =>
      let r := DocBook.render d table occ.markup (some occ.index)
      let grown := log ++ reports ++ r.diagnostics
      let new := grown.drop log.length
      let found := diagnosticLines l d r.table grown rest
      (found.1.before (new.map (reportLine occ)) (detailEvents l occ ++ new.map .diagnostic),
        found.2)

def countLines (names : List Text) : List Text :=
  (names.eraseDups.mergeSort Text.le).map fun name ↦
    "  ".toList ++ name ++ ": ".toList ++ Text.ofNat (names.count name)

def reportLines (l : Latex.Options) (d : DocBook.Options) (occs : List Occurrence) :
    Lines Fault :=
  let found := diagnosticLines l d .empty [] occs
  let kinds := occs.map fun occ ↦
    (Entry.ofMarkup l.escape occ.markup occ.position).command.kind.name
  let summary := match found.1.failure with
    | some _ => []
    | none => ("\nTotal entries: ".toList ++ Text.ofNat occs.length) :: countLines kinds ++
        ["Diagnostics: ".toList ++ Text.ofNat found.2.length]
  { found.1 with lines := "--- INDEX REPORT ---".toList :: found.1.lines ++ summary }

end BookIndex.CommandLine
