import BookIndex.Proofs.CommandLine.Failures
import BookIndex.Proofs.Xhtml.Order
import Mathlib.Algebra.BigOperators.Group.List.Lemmas
import Mathlib.Algebra.GroupWithZero.Nat

namespace BookIndex.CommandLine

open Markup

variable {lib : Libraries} {tree : Files.Tree}

def latexReports (l : Latex.Options) (occ : Occurrence) : List Diagnostic :=
  match Latex.render l occ.markup occ.plain (some occ.index) with
  | .ok (_, reports) => reports
  | .error _ => []

/-- What both outputs report of the occurrences one by one, each output in a log of its own. -/
def separate (l : Latex.Options) (d : DocBook.Options) (table : DocBook.RangeTable) :
    List Occurrence → List (List Diagnostic)
  | [] => []
  | occ :: rest =>
    let r := DocBook.render d table occ.markup (some occ.index)
    (latexReports l occ ++ r.diagnostics) :: separate l d r.table rest

section

variable {l : Latex.Options} {d : DocBook.Options} {codec : Codec}

theorem length_separate (table : DocBook.RangeTable) (occs : List Occurrence) :
    (separate l d table occs).length = occs.length := by
  induction occs generalizing table with
  | nil => rfl
  | cons occ rest ih => rw [separate, List.length_cons, List.length_cons, ih]

theorem exists_render (hv : l.validator = codec.validator) (htext : codec.IsText)
    (hverbatim : l.verbatim = false) (occ : Occurrence) :
    ∃ text, Latex.render l occ.markup occ.plain (some occ.index) =
      .ok (text, latexReports l occ) := by
  unfold latexReports
  cases h : Latex.render l occ.markup occ.plain (some occ.index) with
  | ok out => exact ⟨out.1, rfl⟩
  | error e =>
    have hfails := Latex.render_error_iff hv hverbatim occ.markup occ.plain (some occ.index)
    exact absurd (hfails.1 ⟨e, h⟩) (Latex.not_keysFail htext _ _ _)

/-- Whatever is in the log, what is new in it behind each occurrence is what the outputs report of it
in logs of their own. -/
theorem diagnosticLines_eq (hv : l.validator = codec.validator) (htext : codec.IsText)
    (hverbatim : l.verbatim = false) (table : DocBook.RangeTable) (log : List Diagnostic)
    (occs : List Occurrence) :
    let found := diagnosticLines l d table log occs
    found.1.lines = (List.zipWith (fun occ reports ↦ reports.map (reportLine occ)) occs
        (separate l d table occs)).flatten ∧
      found.1.failure = none ∧ found.2 = log ++ (separate l d table occs).flatten := by
  induction occs generalizing table log with
  | nil => exact ⟨rfl, rfl, (List.append_nil log).symm⟩
  | cons occ rest ih =>
    obtain ⟨text, h⟩ := exists_render hv htext hverbatim occ
    let r := DocBook.render d table occ.markup (some occ.index)
    let new := latexReports l occ ++ r.diagnostics
    obtain ⟨hlines, hfailure, hlog⟩ := ih r.table (log ++ new)
    have hnew : (log ++ latexReports l occ ++ r.diagnostics).drop log.length = new := by
      rw [List.append_assoc, List.drop_left]
    have hfound : diagnosticLines l d table log (occ :: rest) =
        ((diagnosticLines l d r.table (log ++ new) rest).1.before (new.map (reportLine occ))
          (detailEvents l occ ++ new.map .diagnostic),
        (diagnosticLines l d r.table (log ++ new) rest).2) := by
      rw [diagnosticLines, h]
      dsimp only
      rw [hnew, List.append_assoc]
    intro found
    refine ⟨?_, ?_, ?_⟩
    · rw [separate, List.zipWith_cons_cons, List.flatten_cons, ← hlines]
      exact congrArg (fun r ↦ r.1.lines) hfound
    · exact (congrArg (fun r ↦ r.1.failure) hfound).trans hfailure
    · rw [separate, List.flatten_cons, ← List.append_assoc]
      exact (congrArg Prod.snd hfound).trans hlog

theorem getElem?_separate (hv : l.validator = codec.validator) (htext : codec.IsText)
    (hverbatim : l.verbatim = false) (table : DocBook.RangeTable) {occs : List Occurrence} {k : ℕ}
    {occ : Occurrence} (hk : occs[k]? = some occ) :
    ∃ text reports r, Latex.render l occ.markup occ.plain (some occ.index) = .ok (text, reports) ∧
      (DocBook.renderAll d table (occs.map fun o ↦ (o.markup, some o.index)))[k]? = some r ∧
      (separate l d table occs)[k]? = some (reports ++ r.diagnostics) := by
  induction occs generalizing k table with
  | nil => cases hk
  | cons first rest ih =>
    rw [separate, List.map_cons, DocBook.renderAll]
    cases k with
    | zero =>
      cases hk
      obtain ⟨text, h⟩ := exists_render hv htext hverbatim occ
      exact ⟨text, _, _, h, rfl, rfl⟩
    | succ k => exact ih _ hk

end

theorem nodup_eraseDups (names : List Text) : names.eraseDups.Nodup := by
  match names with
  | [] => exact .nil
  | name :: names =>
    rw [List.eraseDups_cons, List.nodup_cons]
    exact ⟨by simp, nodup_eraseDups _⟩
termination_by names.length
decreasing_by exact Nat.lt_succ_of_le (List.length_filter_le _ names)

def counts (names : List Text) : List (Text × ℕ) :=
  (names.eraseDups.mergeSort Text.le).map fun name ↦ (name, names.count name)

theorem flatMap_countLines (names : List Text) :
    (countLines names).flatMap printLine = (counts names).flatMap fun count ↦
      "  ".toList ++ count.1 ++ ": ".toList ++ Text.ofNat count.2 ++ ['\n'] := by
  rw [countLines, counts, List.flatMap_map, List.flatMap_map]
  rfl

theorem nodup_counts (names : List Text) : ((counts names).map Prod.fst).Nodup := by
  have hfst : (counts names).map Prod.fst = names.eraseDups.mergeSort Text.le := by
    rw [counts, List.map_map]
    exact List.map_id _
  rw [hfst]
  exact (List.mergeSort_perm _ _).nodup_iff.2 (nodup_eraseDups names)

theorem count_of_mem_counts {names : List Text} {count : Text × Nat} (h : count ∈ counts names) :
    count.2 = names.count count.1 := by
  obtain ⟨name, -, rfl⟩ := List.mem_map.1 h
  rfl

theorem sum_counts (names : List Text) : ((counts names).map Prod.snd).sum = names.length := by
  have hperm : (names.eraseDups.mergeSort Text.le).Perm names.dedup := by
    refine (List.mergeSort_perm _ _).trans ?_
    rw [List.perm_ext_iff_of_nodup (nodup_eraseDups names) (List.nodup_dedup names)]
    exact fun name ↦ List.mem_eraseDups.trans List.mem_dedup.symm
  -- Mathlib counts with the equality test that decides equality
  have hbeq : (instBEqOfDecidableEq : BEq Text) = List.instBEq := lawful_beq_subsingleton _ _
  have hdedup := List.sum_map_count_dedup_eq_length names
  rw [hbeq] at hdedup
  calc
    ((counts names).map Prod.snd).sum =
        ((names.eraseDups.mergeSort Text.le).map fun name ↦ names.count name).sum := by
      rw [counts, List.map_map]
      rfl
    _ = (names.dedup.map fun name ↦ names.count name).sum := (hperm.map _).sum_eq
    _ = names.length := hdedup

/-- Where an occurrence is; one without a position is at a question mark. -/
def place (occ : Occurrence) : Text :=
  if occ.position.getD [] = [] then ['?'] else occ.position.getD []

theorem printLine_reportLine (occ : Occurrence) (d : Diagnostic) :
    printLine (reportLine occ d) = "  ".toList ++ place occ ++ ": ".toList ++ d.kind.name ++
      ": ".toList ++ d.message ++ ['\n'] := by
  obtain ⟨markup, plain, position, index⟩ := occ
  rcases position with _ | (_ | ⟨c, position⟩) <;> rfl

def toldLines (occs : List Occurrence) (added : List (List Diagnostic)) : List Text :=
  (List.zipWith (fun occ reports ↦ reports.map fun d : Diagnostic ↦
    "  ".toList ++ place occ ++ ": ".toList ++ d.kind.name ++ ": ".toList ++ d.message ++ ['\n'])
      occs added).flatten

theorem map_printLine_reportLines (occs : List Occurrence) (added : List (List Diagnostic)) :
    (List.zipWith (fun occ reports ↦ reports.map (reportLine occ)) occs added).flatten.map printLine =
      toldLines occs added := by
  rw [List.map_flatten, List.map_zipWith, toldLines]
  simp only [List.map_map, Function.comp_def, printLine_reportLine]

theorem length_toldLines {occs : List Occurrence} {added : List (List Diagnostic)}
    (h : added.length = occs.length) :
    (toldLines occs added).length = added.flatten.length := by
  unfold toldLines
  induction occs generalizing added with
  | nil =>
    rw [List.length_eq_zero_iff.1 h]
    rfl
  | cons occ occs ih =>
    obtain ⟨reports, added, rfl⟩ := List.exists_cons_of_length_eq_add_one h
    rw [List.zipWith_cons_cons, List.flatten_cons, List.flatten_cons, List.length_append,
      List.length_append, ih (Nat.succ.inj h), List.length_map]

theorem reportLines_lines {l : Latex.Options} {d : DocBook.Options} {occs : List Occurrence}
    (h : (diagnosticLines l d .empty [] occs).1.failure = none) :
    (reportLines l d occs).lines = "--- INDEX REPORT ---".toList ::
      (diagnosticLines l d .empty [] occs).1.lines ++
        (("\nTotal entries: ".toList ++ Text.ofNat occs.length) ::
          countLines (occs.map fun occ ↦
            (Entry.ofMarkup l.escape occ.markup occ.position).command.kind.name) ++
          ["Diagnostics: ".toList ++ Text.ofNat (diagnosticLines l d .empty [] occs).2.length]) := by
  simp only [reportLines, h]

theorem flatMap_reportLines {l : Latex.Options} {codec : Codec} (hv : l.validator = codec.validator)
    (htext : codec.IsText) (hverbatim : l.verbatim = false) (d : DocBook.Options)
    (occs : List Occurrence) :
    let told := toldLines occs (separate l d .empty occs)
    (reportLines l d occs).failure = none ∧
      (reportLines l d occs).lines.flatMap printLine =
        "--- INDEX REPORT ---\n".toList ++ told.flatten ++
          "\nTotal entries: ".toList ++ Text.ofNat occs.length ++ ['\n'] ++
          ((counts (occs.map fun occ ↦
            (Entry.ofMarkup l.escape occ.markup occ.position).command.kind.name)).flatMap fun count ↦
              "  ".toList ++ count.1 ++ ": ".toList ++ Text.ofNat count.2 ++ ['\n']) ++
          "Diagnostics: ".toList ++ Text.ofNat told.length ++ ['\n'] := by
  obtain ⟨hlines, hfailure, hlog⟩ := diagnosticLines_eq (d := d) hv htext hverbatim .empty [] occs
  refine ⟨hfailure, ?_⟩
  have htold : (diagnosticLines l d .empty [] occs).1.lines.flatMap printLine =
      (toldLines occs (separate l d .empty occs)).flatten := by
    rw [hlines, List.flatMap_def, map_printLine_reportLines]
  have hlength : (diagnosticLines l d .empty [] occs).2.length =
      (toldLines occs (separate l d .empty occs)).length := by
    rw [hlog, List.nil_append, length_toldLines (length_separate .empty occs)]
  have hheader : "--- INDEX REPORT ---\n".toList = "--- INDEX REPORT ---".toList ++ ['\n'] := rfl
  rw [reportLines_lines hfailure]
  simp only [List.cons_append, List.flatMap_cons, List.flatMap_append, htold,
    hlength, flatMap_countLines, hheader, List.flatMap_nil, printLine, List.append_assoc,
    List.append_nil, List.nil_append]

theorem run_check_eq {input : Input} {doc : Document} {s : Settings} {name : Text} {codec : Codec}
    (hdoc : Document.ofFile lib.format tree input.document = .ok doc)
    (hsettings : input.settings doc = .ok s) (hname : input.encodingName s = some name)
    (hcodec : lib.encoding name = .ok codec) :
    let report :=
      reportLines (latexOptions s codec.validator false) (docbookOptions s) doc.occurrences
    (Command.check input).run lib tree = ⟨report.lines.flatMap printLine,
      Input.unknownSettings doc ++ report.events, tree, report.failure.map .fault⟩ := by
  simp only [Command.run, Input.withDocument, hdoc, hsettings, withValidator, hname, hcodec]

/-- The report tells, occurrence by occurrence, what the LaTeX output reports for it and what a
separate DocBook session reports for it, and nothing else; it ends with the count of these lines and
with counts of the kinds, which share out the occurrences. -/
theorem run_check {input : Input} {doc : Document} {s : Settings} {name : Text} {codec : Codec}
    (hdoc : Document.ofFile lib.format tree input.document = .ok doc)
    (hsettings : input.settings doc = .ok s) (hname : input.encodingName s = some name)
    (hcodec : lib.encoding name = .ok codec) (htext : codec.IsText) :
    let l := latexOptions s codec.validator false
    let session := DocBook.renderAll (docbookOptions s) .empty
      (doc.occurrences.map fun occ ↦ (occ.markup, some occ.index))
    let kind := fun occ : Occurrence ↦
      (Entry.ofMarkup s.escapeChar occ.markup occ.position).command.kind.name
    ∃ (added : List (List Diagnostic)) (counted : List (Text × ℕ)),
      added.length = doc.occurrences.length ∧
      (∀ (k : ℕ) (occ : Occurrence), doc.occurrences[k]? = some occ → ∃ text reports r,
        Latex.render l occ.markup occ.plain (some occ.index) = .ok (text, reports) ∧
          session[k]? = some r ∧ added[k]? = some (reports ++ r.diagnostics)) ∧
      (counted.map Prod.fst).Nodup ∧
      (∀ count ∈ counted, count.2 = doc.occurrences.countP fun occ ↦ kind occ == count.1) ∧
      (counted.map Prod.snd).sum = doc.occurrences.length ∧
      let told := (List.zipWith (fun occ reports ↦ reports.map fun d : Diagnostic ↦
        "  ".toList ++ place occ ++ ": ".toList ++ d.kind.name ++ ": ".toList ++ d.message ++ ['\n'])
          doc.occurrences added).flatten
      ((Command.check input).run lib tree).failure = none ∧
        ((Command.check input).run lib tree).stdout =
          "--- INDEX REPORT ---\n".toList ++ told.flatten ++
            "\nTotal entries: ".toList ++ Text.ofNat doc.occurrences.length ++ ['\n'] ++
            (counted.flatMap fun count ↦
              "  ".toList ++ count.1 ++ ": ".toList ++ Text.ofNat count.2 ++ ['\n']) ++
            "Diagnostics: ".toList ++ Text.ofNat told.length ++ ['\n'] := by
  intro l session kind
  have hv : l.validator = codec.validator := rfl
  obtain ⟨hfailure, hstdout⟩ := flatMap_reportLines hv htext rfl (docbookOptions s) doc.occurrences
  refine ⟨separate l (docbookOptions s) .empty doc.occurrences, counts (doc.occurrences.map kind),
    length_separate _ _, fun k occ hk ↦ getElem?_separate hv htext rfl _ hk, nodup_counts _,
    fun count hc ↦ ?_, ?_, ?_⟩
  · rw [count_of_mem_counts hc, List.count_eq_countP, List.countP_map]
    rfl
  · rw [sum_counts, List.length_map]
  · intro told
    rw [run_check_eq hdoc hsettings hname hcodec]
    exact ⟨by rw [hfailure, Option.map_none], hstdout⟩

def troubledText : Text :=
  ("occurrences:\n- markup: \\LyX|(\n  plain: Lé☃\n  position: p1\n" ++
    "- A|see\x7bB, C\x7d\n- markup: '|('\n  position: p2\n- B\n- markup: '|x'\n  position: ''\n" ++
    "settings:\n  encoding: ascii\n").toList

def troubledValue : Value :=
  .ofFields [("occurrences".toList, .list
      [.ofFields [("markup".toList, .text "\\LyX|(".toList), ("plain".toList, .text "Lé☃".toList),
          ("position".toList, .text "p1".toList)],
        .text "A|see\x7bB, C\x7d".toList,
        .ofFields [("markup".toList, .text "|(".toList), ("position".toList, .text "p2".toList)],
        .text "B".toList,
        .ofFields [("markup".toList, .text "|x".toList), ("position".toList, .text [])]]),
    ("settings".toList, .ofFields [("encoding".toList, .text "ascii".toList)])]

def troubled : Document :=
  { occurrences :=
      [⟨"\\LyX|(".toList, "Lé☃".toList, some "p1".toList, mainIndex⟩,
        ⟨"A|see\x7bB, C\x7d".toList, [], none, mainIndex⟩,
        ⟨"|(".toList, [], some "p2".toList, mainIndex⟩,
        ⟨"B".toList, [], none, mainIndex⟩, ⟨"|x".toList, [], some [], mainIndex⟩]
    settings := [(.text "encoding".toList, .text "ascii".toList)] }

def troubledTree : Files.Tree := .ofList [("d.yaml".toList, .file troubledText)]

def troubledLibraries : Libraries :=
  .ofTables [(troubledText, troubledValue)] [("ascii".toList, .charset .ascii)]

def troubledReport : Text := List.flatten
  ["--- INDEX REPORT ---\n".toList,
    "  p1: uncodable_sort_character: ".toList, "Uncodable character in index entry 'Lé☃'. ".toList,
      "Sorting might be wrong!\n".toList,
    "  p1: sort_key_mismatch: ".toList, "Automatic index sorting faced problems ".toList,
      "with the entry 'Lé☃'. ".toList, "Please specify the sorting of this entry ".toList,
      "manually.\n".toList,
    "  ?: multiple_see_targets: ".toList, "Several index terms found as \"see\"! ".toList,
      "Only one is acceptable. ".toList, "Complete entry: \"A|see\x7bB, C\x7d\"\n".toList,
    "  p2: no_term_found: ".toList, "No index term found! Complete entry: \"|(\"\n".toList,
    "  ?: unsupported_trailing_command: ".toList, "Unsupported feature: an index entry ".toList,
      "contains a | with an unsupported command, x. ".toList, "Complete entry: \"|x\"\n".toList,
    "  ?: no_term_found: ".toList, "No index term found! Complete entry: \"|x\"\n".toList,
    "\nTotal entries: 5\n".toList, "  format: 1\n".toList, "  none: 1\n".toList,
    "  range_start: 2\n".toList, "  see: 1\n".toList, "Diagnostics: 6\n".toList]

def troubledSettings : Settings := { Settings.default with encoding := "ascii".toList }

theorem flatMap_reportLines_troubled :
    (reportLines (latexOptions troubledSettings (Codec.charset .ascii).validator false)
      (docbookOptions troubledSettings) troubled.occurrences).lines.flatMap printLine =
        troubledReport := by
  have hkinds : (troubled.occurrences.map fun occ ↦
      (Entry.ofMarkup troubledSettings.escapeChar occ.markup occ.position).command.kind.name) =
        ["range_start".toList, "see".toList, "range_start".toList, "none".toList,
          "format".toList] := by decide +kernel
  have hcounts : countLines ["range_start".toList, "see".toList, "range_start".toList,
      "none".toList, "format".toList] =
        ["  format: 1".toList, "  none: 1".toList, "  range_start: 2".toList,
          "  see: 1".toList] := by
    rw [countLines, Text.mergeSort_eq_insertionSort]
    decide +kernel
  rw [reportLines_lines (by decide +kernel)]
  dsimp only [latexOptions]
  rw [hkinds, hcounts]
  decide +kernel

theorem run_check_troubled :
    Document.ofFile troubledLibraries.format troubledTree documentInput.document = .ok troubled ∧
    documentInput.settings troubled = .ok troubledSettings ∧
    troubledLibraries.encoding "ascii".toList = .ok (.charset .ascii) ∧
    (Codec.charset .ascii).IsText ∧
    ((Command.check documentInput).run troubledLibraries troubledTree).failure = none ∧
    ((Command.check documentInput).run troubledLibraries troubledTree).stdout = troubledReport ∧
    ∃ (added : List (List Diagnostic)) (counted : List (Text × ℕ)),
      added.length = troubled.occurrences.length ∧
      (counted.map Prod.snd).sum = troubled.occurrences.length ∧
      let told := (List.zipWith (fun occ reports ↦ reports.map fun d : Diagnostic ↦
        "  ".toList ++ place occ ++ ": ".toList ++ d.kind.name ++ ": ".toList ++ d.message ++ ['\n'])
          troubled.occurrences added).flatten
      troubledReport = "--- INDEX REPORT ---\n".toList ++ told.flatten ++
        "\nTotal entries: ".toList ++ Text.ofNat troubled.occurrences.length ++ ['\n'] ++
        (counted.flatMap fun count ↦
          "  ".toList ++ count.1 ++ ": ".toList ++ Text.ofNat count.2 ++ ['\n']) ++
        "Diagnostics: ".toList ++ Text.ofNat told.length ++ ['\n'] := by
  have hdoc : Document.ofFile troubledLibraries.format troubledTree documentInput.document =
      .ok troubled :=
    Document.ofFile_of_stores (Document.stores_ofTexts troubledText (by decide +kernel)
      (by decide +kernel) List.lookup_cons_self) rfl
  have hsettings : documentInput.settings troubled = .ok troubledSettings := by rfl
  have hcodec : troubledLibraries.encoding "ascii".toList = .ok (.charset .ascii) := by rfl
  have htext := Codec.isText_charset .ascii
  have hstdout : ((Command.check documentInput).run troubledLibraries troubledTree).stdout =
      troubledReport := by
    rw [run_check_eq hdoc hsettings rfl hcodec]
    exact flatMap_reportLines_troubled
  obtain ⟨added, counted, hlength, -, -, -, hsum, hfailure, hout⟩ :=
    run_check hdoc hsettings rfl hcodec htext
  exact ⟨hdoc, hsettings, hcodec, htext, hfailure, hstdout, added, counted, hlength, hsum,
    hstdout.symm.trans hout⟩

end BookIndex.CommandLine
