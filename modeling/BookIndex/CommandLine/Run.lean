import BookIndex.CommandLine.Command
import BookIndex.CommandLine.Render
import BookIndex.Document.Store

namespace BookIndex.CommandLine

open Files

/-- What a program is given: the format of the documents and the encodings by name. -/
structure Libraries where
  format : Document.Format
  encoding : Text → Except Fault Codec

inductive Failure where
  | document (e : Document.OpenError)
  /-- The settings of the document at a path cannot be taken. -/
  | settings (path : Text) (e : Fault)
  | file (e : Files.Error)
  /-- A file was to be written, but has no name. -/
  | unnamedFile
  | unknownEncoding (name : Text)
  /-- An encoding was given, but has no name. -/
  | unnamedEncoding
  | fault (e : Fault)
  | row (e : Xhtml.RowError)
  deriving DecidableEq, Repr

namespace Failure

def message : Failure → Text
  | document e => e.message
  | settings path (.unfit message) =>
    "Invalid settings in ".toList ++ path ++ ": ".toList ++ message
  | settings _ e => e.message
  | file e => e.message
  | unnamedFile => "expected str, bytes or os.PathLike object, not list".toList
  | unknownEncoding name => "Unknown encoding: ".toList ++ name
  | unnamedEncoding => "lookup() argument must be str, not list".toList
  | fault e => e.message
  | row e => e.message

def isReported : Failure → Bool
  | document e => e.isReported
  | settings _ (.unfit _) => true
  | settings _ _ => false
  | file e => e.reason != .nul
  | unknownEncoding _ => true
  | unnamedFile | unnamedEncoding | fault _ | row _ => false

end Failure

structure Transcript where
  stdout : Text
  events : List Event
  tree : Tree
  failure : Option Failure

namespace Transcript

def fail (tree : Tree) (events : List Event) (e : Failure) : Transcript :=
  ⟨[], events, tree, some e⟩

/-- Tells lines, in a file if it has a name. If there was a failure, nothing is told. -/
def ofLines {ε : Type} (tree : Tree) (output : Text) (events : List Event) (lines : Lines ε)
    (failure : ε → Failure) : Transcript :=
  let events := events ++ lines.events
  match lines.failure with
  | some e => fail tree events (failure e)
  | none =>
    let text := joinLines lines.lines
    if output.isEmpty then ⟨text, events, tree, none⟩
    else match tree.write output text with
      | .ok tree => ⟨[], events, tree, none⟩
      | .error e => fail tree events (.file e)

end Transcript

namespace Input

def settings (input : Input) (doc : Document) : Except Fault Settings :=
  (Settings.ofFields doc.settings).map fun s ↦
    { s with
      useIndices := input.useIndices || s.useIndices
      escapeChar := input.escape.getD s.escapeChar }

def encodingName (input : Input) (s : Settings) : Option Text :=
  input.encoding.getD (some s.encoding)

/-- The unknown settings of a document that have a name to tell. -/
def unknownSettings (doc : Document) : List Event :=
  (Settings.unknownFields doc.settings).filterMap fun key ↦
    key.toText.toOption.map .unknownSetting

def withDocument (f : Document.Format) (input : Input) (tree : Tree)
    (run : Document → Settings → List Event → Transcript) : Transcript :=
  match Document.ofFile f tree input.document with
  | .error e => .fail tree [] (.document e)
  | .ok doc =>
    match input.settings doc with
    | .error e => .fail tree (unknownSettings doc) (.settings input.document e)
    | .ok s => run doc s (unknownSettings doc)

end Input

def withValidator (lib : Libraries) (tree : Tree) (events : List Event) (encoding : Option Text)
    (run : Validator → Transcript) : Transcript :=
  match encoding with
  | none => .fail tree events .unnamedEncoding
  | some name =>
    match lib.encoding name with
    | .ok codec => run codec.validator
    | .error (.unknown _) => .fail tree events (.unknownEncoding name)
    | .error e => .fail tree events (.fault e)

def latexOptions (s : Settings) (validator : Validator) (preview : Bool) : Latex.Options :=
  ⟨validator, s.escapeChar, s.useIndices, preview, false⟩

def docbookOptions (s : Settings) : DocBook.Options := ⟨s.escapeChar, s.useIndices⟩

def xhtmlOptions (s : Settings) : Xhtml.Options :=
  ⟨s.separator, s.escapeChar, s.useIndices, ⟨s.heading, s.headingTag, s.cssClass⟩⟩

def scanLines (doc : Document) (directory output : Text) : List Text :=
  ["Scanned ".toList ++ Text.ofNat doc.occurrences.length ++ " index entries from ".toList ++
      directory,
    "Occurrences saved to ".toList ++ output] ++ countLines (doc.occurrences.map (·.index))

def printLine (line : Text) : Text := line ++ ['\n']

namespace Command

def run (lib : Libraries) (tree : Tree) : Command → Transcript
  | scan directory output =>
    match Document.scanDirectory tree directory with
    | .error e => .fail tree [] (.file e)
    | .ok doc =>
      match output with
      | none => .fail tree [] .unnamedFile
      | some output =>
        match doc.save lib.format tree output with
        | .error e => .fail tree [] (.file e)
        | .ok tree => ⟨(scanLines doc directory output).flatMap printLine, [], tree, none⟩
  | latex input dryRun printIndex =>
    input.withDocument lib.format tree fun doc s events ↦
      withValidator lib tree events (input.encodingName s) fun validator ↦
        let lines := latexLines (latexOptions s validator (s.dryRun || dryRun)) doc.occurrences
        let lines := if printIndex then
          { lines with lines := lines.lines ++ printLines s.useIndices doc } else lines
        .ofLines tree input.output events lines .fault
  | docbook input =>
    input.withDocument lib.format tree fun doc s events ↦
      let lines := docbookLines (docbookOptions s) doc.occurrences
      .ofLines tree input.output events lines Failure.row
  | xhtml input index =>
    input.withDocument lib.format tree fun doc s events ↦
      let occs := if s.useIndices then index.elim [] doc.forIndex else doc.occurrences
      .ofLines tree input.output events (xhtmlLines (xhtmlOptions s) index occs) .row
  | check input =>
    input.withDocument lib.format tree fun doc s events ↦
      withValidator lib tree events (input.encodingName s) fun validator ↦
        let report :=
          reportLines (latexOptions s validator false) (docbookOptions s) doc.occurrences
        ⟨report.lines.flatMap printLine, events ++ report.events, tree,
          report.failure.map .fault⟩

end Command

inductive Status where
  | exit (code : Nat)
  | raised (e : Failure)
  deriving DecidableEq, Repr

structure Outcome where
  status : Status
  stdout : Text
  stderr : Text
  tree : Tree
  failure : Option Failure

def failureLine (command : Command) (e : Failure) : Text :=
  printLine (command.name ++ " failed: ".toList ++ e.message)

def Invocation.run (lib : Libraries) (tree : Tree) (i : Invocation) : Outcome :=
  let t := i.command.run lib tree
  let told := Event.write i.verbose t.events
  match t.failure with
  | none => ⟨.exit 0, t.stdout, told, t.tree, none⟩
  | some e =>
    if e.isReported then
      ⟨.exit 1, t.stdout, told ++ failureLine i.command e, t.tree, some e⟩
    else ⟨.raised e, t.stdout, told, t.tree, some e⟩

def usage : Text :=
  "usage: bookindex [-h] [-v] \x7bscan,latex,docbook,xhtml,check\x7d ...\n".toList

def run (lib : Libraries) (tree : Tree) (args : List Text) : Outcome :=
  match Invocation.ofArgs args with
  | .ok i => i.run lib tree
  | .error .help => ⟨.exit 0, usage, [], tree, none⟩
  | .error .usage => ⟨.exit 2, [], usage, tree, none⟩

end BookIndex.CommandLine
