import BookIndex.CommandLine.Run
import BookIndex.Proofs.Document.Loading
import BookIndex.Proofs.Document.Settings
import BookIndex.Proofs.Latex.Failures
import BookIndex.Proofs.Xhtml.Failures

namespace BookIndex.CommandLine

open Markup

variable {lib : Libraries} {tree : Files.Tree}

def Transcript.Escapes (t : Transcript) : Prop := ∃ e, t.failure = some e ∧ e.isReported = false

theorem not_escapes_of_failure {t : Transcript} (h : t.failure = none) : ¬t.Escapes := by
  rintro ⟨e, he, -⟩
  rw [h] at he
  cases he

/-- The settings of a document cannot be taken: the first field without a text lacks it for another
reason than that its value is unfit for one. -/
def Unset (doc : Document) : Prop :=
  ∃ before field after e, doc.settings = before ++ field :: after ∧
    (∀ b ∈ before, ∀ e, ¬Settings.LacksText b e) ∧ Settings.LacksText field e ∧
    ∀ message, e ≠ .unfit message

theorem settings_isReported_iff (path : Text) (e : Fault) :
    (Failure.settings path e).isReported = false ↔ ∀ message, e ≠ .unfit message := by
  cases e with
  | unfit message => exact iff_of_false Bool.noConfusion fun h ↦ h message rfl
  | _ =>
    refine iff_of_true rfl ?_
    rintro message h
    cases h

theorem settings_escapes_iff (input : Input) (doc : Document) :
    (∃ e, input.settings doc = .error e ∧
      (Failure.settings input.document e).isReported = false) ↔ Unset doc := by
  have herror (e : Fault) :
      input.settings doc = .error e ↔ Settings.ofFields doc.settings = .error e := by
    unfold Input.settings
    cases Settings.ofFields doc.settings with
    | error e' => exact Iff.rfl
    | ok s =>
      refine iff_of_false ?_ ?_
      · intro h
        cases h
      · intro h
        cases h
  simp only [herror, Settings.ofFields_eq_error_iff, settings_isReported_iff]
  constructor
  · rintro ⟨e, ⟨before, field, after, hfields, hbefore, hfield⟩, hunfit⟩
    exact ⟨before, field, after, e, hfields, hbefore, hfield, hunfit⟩
  · rintro ⟨before, field, after, e, hfields, hbefore, hfield, hunfit⟩
    exact ⟨e, ⟨before, field, after, hfields, hbefore, hfield⟩, hunfit⟩

theorem escapes_withDocument_iff (f : Document.Format) (input : Input)
    (run : Document → Settings → List Event → Transcript) :
    (input.withDocument f tree run).Escapes ↔ Document.Unopened f tree input.document ∨
      ∃ doc, Document.ofFile f tree input.document = .ok doc ∧
        (Unset doc ∨ ∃ s, input.settings doc = .ok s ∧
          (run doc s (Input.unknownSettings doc)).Escapes) := by
  rw [← Document.ofFile_escapes_iff]
  unfold Input.withDocument
  cases Document.ofFile f tree input.document with
  | error e =>
    constructor
    · rintro ⟨_, he, hr⟩
      cases he
      exact .inl ⟨e, rfl, hr⟩
    · rintro (⟨_, he, hr⟩ | ⟨doc, hdoc, -⟩)
      · cases he
        exact ⟨_, rfl, hr⟩
      · cases hdoc
  | ok doc =>
    simp only [Except.ok.injEq, exists_eq_left', reduceCtorEq, false_and, exists_false, false_or]
    rw [← settings_escapes_iff input doc]
    cases input.settings doc with
    | error e =>
      constructor
      · rintro ⟨_, he, hr⟩
        cases he
        exact .inl ⟨e, rfl, hr⟩
      · rintro (⟨_, he, hr⟩ | ⟨s, hs, -⟩)
        · cases he
          exact ⟨_, rfl, hr⟩
        · cases hs
    | ok s => simp only [Except.ok.injEq, exists_eq_left', reduceCtorEq, false_and, exists_false,
        false_or]

theorem escapes_ofLines_iff {ε : Type} {failure : ε → Failure}
    (hf : ∀ e, (failure e).isReported = false) (output : Text) (events : List Event)
    (lines : Lines ε) :
    (Transcript.ofLines tree output events lines failure).Escapes ↔
      (∃ e, lines.failure = some e) ∨ '\x00' ∈ output := by
  unfold Transcript.ofLines
  cases lines.failure with
  | some e => exact iff_of_true ⟨_, rfl, hf e⟩ (.inl ⟨e, rfl⟩)
  | none =>
    rw [or_iff_right nofun, ← Files.Tree.write_nul_iff tree output (joinLines lines.lines)]
    cases output with
    | nil => exact iff_of_false nofun nofun
    | cons c output =>
      simp only [List.isEmpty_cons, Bool.false_eq_true, if_false]
      cases tree.write (c :: output) (joinLines lines.lines) with
      | ok tree => exact iff_of_false nofun nofun
      | error e =>
        constructor
        · rintro ⟨e', he, hr⟩
          cases he
          exact ⟨e, rfl, bne_eq_false_iff_eq.1 hr⟩
        · rintro ⟨e', he, hr⟩
          cases he
          exact ⟨_, rfl, bne_eq_false_iff_eq.2 hr⟩

/-- No encoding can be looked up: it has no name, or looking the name up fails for another reason
than that it is unknown. -/
def NoEncoding (lib : Libraries) (encoding : Option Text) : Prop :=
  encoding = none ∨ ∃ name e, encoding = some name ∧ lib.encoding name = .error e ∧
    ∀ message, e ≠ .unknown message

theorem escapes_withValidator_iff (events : List Event) (encoding : Option Text)
    (run : Validator → Transcript) :
    (withValidator lib tree events encoding run).Escapes ↔ NoEncoding lib encoding ∨
      ∃ name codec, encoding = some name ∧ lib.encoding name = .ok codec ∧
        (run codec.validator).Escapes := by
  unfold withValidator NoEncoding
  cases encoding with
  | none => exact iff_of_true ⟨_, rfl, rfl⟩ (.inl (.inl rfl))
  | some name =>
    simp only [Option.some.injEq, exists_and_left, exists_eq_left', reduceCtorEq, false_or]
    cases lib.encoding name with
    | ok codec => simp only [Except.ok.injEq, exists_eq_left', reduceCtorEq, false_and,
        exists_false, false_or]
    | error e =>
      simp only [Except.error.injEq, exists_eq_left', reduceCtorEq, false_and, exists_false,
        or_false]
      cases e with
      | unknown message =>
        refine iff_of_false ?_ fun h ↦ h message rfl
        rintro ⟨e', he, hr⟩
        cases he
        cases hr
      | _ =>
        refine iff_of_true ⟨_, rfl, rfl⟩ ?_
        rintro message h
        cases h

def LacksKeys (codec : Codec) (escape : Text) (occs : List Occurrence) : Prop :=
  ∃ occ ∈ occs, Latex.KeysFail codec escape (splitMarkup escape occ.markup).1
    (splitMarkup escape occ.plain).1

theorem latexLines_failure_iff {o : Latex.Options} {codec : Codec}
    (hv : o.validator = codec.validator) (hverbatim : o.verbatim = false)
    (occs : List Occurrence) :
    (∃ e, (latexLines o occs).failure = some e) ↔ LacksKeys codec o.escape occs := by
  induction occs with
  | nil => exact iff_of_false nofun fun h ↦ h.elim fun occ h ↦ nomatch h.1
  | cons occ occs ih =>
    have hocc := Latex.render_error_iff hv hverbatim occ.markup occ.plain (some occ.index)
    rw [LacksKeys, List.exists_mem_cons_iff, ← hocc, ← LacksKeys, ← ih, latexLines]
    cases Latex.render o occ.markup occ.plain (some occ.index) with
    | error e => exact iff_of_true ⟨e, rfl⟩ (.inl ⟨e, rfl⟩)
    | ok r => exact (or_iff_right nofun).symm

theorem diagnosticLines_failure (l : Latex.Options) (d : DocBook.Options)
    (table : DocBook.RangeTable) (log : List Diagnostic) (occs : List Occurrence) :
    (diagnosticLines l d table log occs).1.failure = (latexLines l occs).failure := by
  induction occs generalizing table log with
  | nil => rfl
  | cons occ occs ih =>
    rw [diagnosticLines, latexLines]
    cases Latex.render l occ.markup occ.plain (some occ.index) with
    | error e => rfl
    | ok r => exact ih (DocBook.render d table occ.markup (some occ.index)).table _

/-- The index of some occurrences is printed without a separator, although one of them has a text
to split. -/
def NoSeparator (o : Xhtml.Options) (index : Option Text) (occs : List Occurrence) : Prop :=
  o.prints index = true ∧ o.separator = [] ∧ ∃ occ ∈ occs, occ.markup ≠ [] ∨ occ.plain ≠ []

theorem xhtmlLines_failure_iff (o : Xhtml.Options) (index : Option Text) (occs : List Occurrence) :
    (∃ e, (xhtmlLines o index occs).failure = some e) ↔ NoSeparator o index occs := by
  have hrows : (∃ row ∈ occs.map xhtmlRow, row.markup ≠ [] ∨ row.plain ≠ []) ↔
      ∃ occ ∈ occs, occ.markup ≠ [] ∨ occ.plain ≠ [] := by
    constructor
    · rintro ⟨row, hrow, h⟩
      obtain ⟨occ, hocc, rfl⟩ := List.mem_map.1 hrow
      exact ⟨occ, hocc, h⟩
    · rintro ⟨occ, hocc, h⟩
      exact ⟨xhtmlRow occ, List.mem_map_of_mem hocc, h⟩
  rw [NoSeparator, ← hrows, ← Xhtml.render_error_iff Xhtml.anchorId o index, xhtmlLines]
  cases Xhtml.render Xhtml.anchorId o index (occs.map xhtmlRow) with
  | ok output => exact iff_of_false nofun nofun
  | error e => exact iff_of_true ⟨e, rfl⟩ ⟨e, rfl⟩

def Command.input? : Command → Option Input
  | .scan .. => none
  | .latex input .. | .docbook input | .xhtml input _ | .check input => some input

/-- The keys of a document cannot be made. -/
def NoKeys (lib : Libraries) (input : Input) (s : Settings) (doc : Document) : Prop :=
  NoEncoding lib (input.encodingName s) ∨ ∃ name codec, input.encodingName s = some name ∧
    lib.encoding name = .ok codec ∧ LacksKeys codec s.escapeChar doc.occurrences

def selected (s : Settings) (index : Option Text) (doc : Document) : List Occurrence :=
  if s.useIndices then index.elim [] doc.forIndex else doc.occurrences

/-- Why a command cannot be run on a document with some settings: keys or levels cannot be made, or
the output goes to a path with a null character. -/
def Command.EscapesOn (lib : Libraries) (doc : Document) (s : Settings) : Command → Prop
  | .scan .. => False
  | .latex input _ _ => NoKeys lib input s doc ∨ '\x00' ∈ input.output ∧
      ∃ name codec, input.encodingName s = some name ∧ lib.encoding name = .ok codec
  | .docbook input => '\x00' ∈ input.output
  | .xhtml input index =>
    NoSeparator (xhtmlOptions s) index (selected s index doc) ∨ '\x00' ∈ input.output
  | .check input => NoKeys lib input s doc

/-- Why a command that reads a document ends in a failure that nothing handles: the document cannot be
opened, its settings cannot be taken, or the command cannot be run on it. -/
def Command.Escapes (lib : Libraries) (tree : Files.Tree) (command : Command) (input : Input) :
    Prop :=
  Document.Unopened lib.format tree input.document ∨
    ∃ doc, Document.ofFile lib.format tree input.document = .ok doc ∧
      (Unset doc ∨ ∃ s, input.settings doc = .ok s ∧ command.EscapesOn lib doc s)

theorem escapes_withDocument_congr {command : Command} {input : Input}
    {run : Document → Settings → List Event → Transcript}
    (h : ∀ doc s, (run doc s (Input.unknownSettings doc)).Escapes ↔
      command.EscapesOn lib doc s) :
    (input.withDocument lib.format tree run).Escapes ↔ command.Escapes lib tree input := by
  rw [escapes_withDocument_iff, Command.Escapes]
  simp only [h]

theorem fault_not_reported (e : Fault) : (Failure.fault e).isReported = false := rfl

theorem escapes_latex_iff (input : Input) (dryRun printIndex : Bool) :
    ((Command.latex input dryRun printIndex).run lib tree).Escapes ↔
      (Command.latex input dryRun printIndex).Escapes lib tree input := by
  rw [Command.run]
  refine escapes_withDocument_congr fun doc s ↦ ?_
  have hlines (codec : Codec) (lines : List Text) :
      let found := latexLines (latexOptions s codec.validator (s.dryRun || dryRun)) doc.occurrences
      (∃ e, (if printIndex then { found with lines := lines } else found).failure = some e) ↔
        LacksKeys codec s.escapeChar doc.occurrences := by
    cases printIndex
    · exact latexLines_failure_iff rfl rfl doc.occurrences
    · exact latexLines_failure_iff rfl rfl doc.occurrences
  rw [escapes_withValidator_iff, Command.EscapesOn, NoKeys, or_assoc]
  refine or_congr_right ?_
  simp only [escapes_ofLines_iff fault_not_reported, hlines]
  constructor
  · rintro ⟨name, codec, hname, hcodec, hkeys | hnul⟩
    · exact .inl ⟨name, codec, hname, hcodec, hkeys⟩
    · exact .inr ⟨hnul, name, codec, hname, hcodec⟩
  · rintro (⟨name, codec, hname, hcodec, hkeys⟩ | ⟨hnul, name, codec, hname, hcodec⟩)
    · exact ⟨name, codec, hname, hcodec, .inl hkeys⟩
    · exact ⟨name, codec, hname, hcodec, .inr hnul⟩

theorem escapes_check_iff (input : Input) :
    ((Command.check input).run lib tree).Escapes ↔
      (Command.check input).Escapes lib tree input := by
  rw [Command.run]
  refine escapes_withDocument_congr fun doc s ↦ ?_
  rw [escapes_withValidator_iff, Command.EscapesOn, NoKeys]
  refine or_congr_right (exists_congr fun name ↦ exists_congr fun codec ↦ ?_)
  refine and_congr_right fun _ ↦ and_congr_right fun _ ↦ ?_
  have hkeys := latexLines_failure_iff (o := latexOptions s codec.validator false) rfl rfl
    doc.occurrences
  rw [← diagnosticLines_failure _ (docbookOptions s) .empty []] at hkeys
  refine Iff.trans ?_ hkeys
  constructor
  · rintro ⟨_, hfailure, -⟩
    obtain ⟨e, he, -⟩ := Option.map_eq_some_iff.1 hfailure
    exact ⟨e, he⟩
  · rintro ⟨e, he⟩
    exact ⟨.fault e, Option.map_eq_some_iff.2 ⟨e, he, rfl⟩, rfl⟩

theorem escapes_docbook_iff (input : Input) :
    ((Command.docbook input).run lib tree).Escapes ↔
      (Command.docbook input).Escapes lib tree input := by
  rw [Command.run]
  refine escapes_withDocument_congr fun doc s ↦ ?_
  rw [escapes_ofLines_iff fun _ ↦ rfl]
  exact or_iff_right nofun

theorem escapes_xhtml_iff (input : Input) (index : Option Text) :
    ((Command.xhtml input index).run lib tree).Escapes ↔
      (Command.xhtml input index).Escapes lib tree input := by
  rw [Command.run]
  refine escapes_withDocument_congr fun doc s ↦ ?_
  rw [escapes_ofLines_iff fun _ ↦ rfl, xhtmlLines_failure_iff]
  exact Iff.rfl

theorem escapes_run_iff {command : Command} {input : Input} (h : command.input? = some input) :
    (command.run lib tree).Escapes ↔ command.Escapes lib tree input := by
  cases command with
  | scan directory output => cases h
  | latex input' dryRun printIndex =>
    cases h
    exact escapes_latex_iff input dryRun printIndex
  | docbook input' =>
    cases h
    exact escapes_docbook_iff input
  | xhtml input' index =>
    cases h
    exact escapes_xhtml_iff input index
  | check input' =>
    cases h
    exact escapes_check_iff input

/-- A run ends in success, or with code 1 and a line that names the command and the failure. -/
def Outcome.Handled (r : Outcome) (command : Command) : Prop :=
  r.status = .exit 0 ∧ r.failure = none ∨
    r.status = .exit 1 ∧ ∃ e told, r.failure = some e ∧
      r.stderr = told ++ command.name ++ " failed: ".toList ++ e.message ++ ['\n']

theorem handled_run_iff (i : Invocation) :
    (i.run lib tree).Handled i.command ↔ ¬(i.command.run lib tree).Escapes := by
  cases hfailure : (i.command.run lib tree).failure with
  | none =>
    simp only [Invocation.run, hfailure]
    exact iff_of_true (.inl ⟨rfl, rfl⟩) (not_escapes_of_failure hfailure)
  | some e =>
    cases hr : e.isReported with
    | false =>
      simp only [Invocation.run, hfailure, hr]
      refine iff_of_false ?_ (not_not.2 ⟨e, hfailure, hr⟩)
      rintro (⟨hs, -⟩ | ⟨hs, -⟩)
      · cases hs
      · cases hs
    | true =>
      simp only [Invocation.run, hfailure, hr]
      refine iff_of_true
        (.inr ⟨rfl, e, Event.write i.verbose (i.command.run lib tree).events, rfl, ?_⟩) ?_
      · simp only [failureLine, printLine, List.append_assoc, if_true]
      · rintro ⟨e', he, hr'⟩
        rw [hfailure] at he
        cases he
        rw [hr] at hr'
        cases hr'

/-- A command that reads a document is handled exactly if the document can be opened, its settings can
be taken, and nothing keeps the command from being run on it, whatever the format of documents and the
encodings are. -/
theorem handled_iff_not_escapes {args : List Text} {i : Invocation} {input : Input}
    (hargs : Invocation.ofArgs args = .ok i) (h : i.command.input? = some input) :
    (run lib tree args).Handled i.command ↔ ¬i.command.Escapes lib tree input := by
  have hrun : run lib tree args = i.run lib tree := by
    rw [run, hargs]
  rw [hrun, handled_run_iff, escapes_run_iff h]

/-- The libraries that know some texts and some encodings, and nothing else. -/
def Libraries.ofTables (texts : List (Text × Value)) (encodings : List (Text × Codec)) :
    Libraries where
  format := .ofTexts texts
  encoding name := ((encodings.lookup name).map .ok).getD
    (.error (.unknown ("unknown encoding: ".toList ++ name)))

def documentInput : Input := ⟨"d.yaml".toList, [], false, none, none⟩

def rotatedText : Text := "occurrences:\n- A!\\B\nsettings:\n  encoding: rot13\n".toList

def rotated : Document :=
  ⟨[⟨"A!\\B".toList, [], none, mainIndex⟩], [(.text "encoding".toList, .text "rot13".toList)]⟩

def rotatedTree : Files.Tree := .ofList [("d.yaml".toList, .file rotatedText)]

def rotation : Codec := ⟨fun _ ↦ .error (.unknown "'rot13' is not a text encoding".toList)⟩

def rotatedLibraries : Libraries :=
  .ofTables [(rotatedText, .ofFields [("occurrences".toList, .list [.text "A!\\B".toList]),
    ("settings".toList, .ofFields [("encoding".toList, .text "rot13".toList)])])]
    [("utf-8".toList, .charset .utf8), ("rot13".toList, rotation)]

theorem handled_iff_not_escapes_rotated :
    Invocation.ofArgs ["check".toList, "d.yaml".toList] = .ok ⟨false, .check documentInput⟩ ∧
    (Command.check documentInput).input? = some documentInput ∧
    (Command.check documentInput).Escapes rotatedLibraries rotatedTree documentInput ∧
    ¬(run rotatedLibraries rotatedTree ["check".toList, "d.yaml".toList]).Handled
      (.check documentInput) := by
  have hdoc : Document.ofFile rotatedLibraries.format rotatedTree "d.yaml".toList = .ok rotated :=
    Document.ofFile_of_stores (Document.stores_ofTexts rotatedText (by decide +kernel)
      (by decide +kernel) List.lookup_cons_self) rfl
  have hkeys : LacksKeys rotation Settings.default.escapeChar rotated.occurrences :=
    ⟨_, List.mem_cons_self, 1, ['\\', 'B'], by decide, by decide, '\\', by decide, .inl ⟨_, rfl⟩⟩
  have hescapes : (Command.check documentInput).Escapes rotatedLibraries rotatedTree documentInput :=
    .inr ⟨rotated, hdoc, .inr ⟨{ Settings.default with encoding := "rot13".toList }, rfl,
      .inr ⟨"rot13".toList, rotation, rfl, rfl, hkeys⟩⟩⟩
  have hiff : (run rotatedLibraries rotatedTree ["check".toList, "d.yaml".toList]).Handled
      (.check documentInput) ↔
        ¬(Command.check documentInput).Escapes rotatedLibraries rotatedTree documentInput :=
    handled_iff_not_escapes (i := ⟨false, .check documentInput⟩) rfl rfl
  exact ⟨rfl, rfl, hescapes, fun h ↦ hiff.1 h hescapes⟩

def numberedText : Text := "occurrences: 5\n".toList

def numberedTree : Files.Tree := .ofList [("d.yaml".toList, .file numberedText)]

def numberedLibraries : Libraries :=
  .ofTables [(numberedText, .ofFields [("occurrences".toList, .int 5)])]
    [("utf-8".toList, .charset .utf8)]

theorem check_of_number :
    Invocation.ofArgs ["check".toList, "d.yaml".toList] = .ok ⟨false, .check documentInput⟩ ∧
    (run numberedLibraries numberedTree ["check".toList, "d.yaml".toList]).status =
      .raised (.document (.load "d.yaml".toList (.notIterable "int".toList))) ∧
    ¬(run numberedLibraries numberedTree ["check".toList, "d.yaml".toList]).Handled
      (.check documentInput) := by
  have hstatus : (run numberedLibraries numberedTree ["check".toList, "d.yaml".toList]).status =
      .raised (.document (.load "d.yaml".toList (.notIterable "int".toList))) := by decide +kernel
  refine ⟨rfl, hstatus, ?_⟩
  rintro (⟨hs, -⟩ | ⟨hs, -⟩)
  · rw [hstatus] at hs
    cases hs
  · rw [hstatus] at hs
    cases hs

end BookIndex.CommandLine
