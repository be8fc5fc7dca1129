import BookIndex.Proofs.CommandLine.Failures
import BookIndex.Proofs.Latex.Labels

namespace BookIndex.CommandLine

open Latex

variable {lib : Libraries} {tree : Files.Tree}

/-- Lines that the macros of some occurrences are. -/
def Renders (o : Latex.Options) : List Occurrence → List Text → Prop :=
  List.Forall₂ fun occ line ↦
    ∃ log, Latex.render o occ.markup occ.plain (some occ.index) = .ok (line, log)

theorem renders_of_latexLines {o : Latex.Options} {occs : List Occurrence}
    (h : (latexLines o occs).failure = none) : Renders o occs (latexLines o occs).lines := by
  induction occs with
  | nil => exact .nil
  | cons occ rest ih =>
    rw [latexLines] at h ⊢
    cases hocc : Latex.render o occ.markup occ.plain (some occ.index) with
    | error e =>
      rw [hocc] at h
      cases h
    | ok out =>
      rw [hocc] at h
      exact .cons ⟨out.2, hocc⟩ (ih h)

/-- Every index that one of the macros writes to has a command that prints it. -/
def PrintsWritten (macros prints : List Text) : Prop :=
  ∀ line ∈ macros, ∃ target, Target.written? line = some target ∧
    ∃ command ∈ target.printCommands, command ∈ prints

theorem printsWritten_of_renders {o : Latex.Options} {occs : List Occurrence}
    {macros : List Text} (h : Renders o occs macros) (prints : List Text) :
    PrintsWritten macros prints ↔ ∀ occ ∈ occs,
      ∃ command ∈ (Target.ofIndex o.useIndices (some occ.index)).printCommands,
        command ∈ prints := by
  induction h with
  | nil => exact iff_of_true nofun nofun
  | cons hline _ ih =>
    obtain ⟨log, hline⟩ := hline
    rw [PrintsWritten, List.forall_mem_cons, List.forall_mem_cons, ← PrintsWritten, ih,
      Target.written?_render hline]
    refine and_congr_left fun _ ↦ ?_
    constructor
    · rintro ⟨target, htarget, h⟩
      cases htarget
      exact h
    · exact fun h ↦ ⟨_, rfl, h⟩

variable {doc : Document}

theorem mem_printLines {useIndices : Bool} {command : Text} :
    command ∈ printLines useIndices doc ↔ command ≠ [] ∧
      ∃ occ ∈ doc.occurrences, printIndex useIndices false false (some occ.index) = command := by
  rw [printLines, List.mem_filter, Bool.not_eq_true', List.isEmpty_eq_false_iff, and_comm,
    List.mem_map]
  refine and_congr_right fun _ ↦ ?_
  constructor
  · rintro ⟨index, hindex, h⟩
    obtain ⟨occ, hocc, rfl⟩ := List.mem_map.1 (List.mem_eraseDups.1 hindex)
    exact ⟨occ, hocc, h⟩
  · rintro ⟨occ, hocc, h⟩
    exact ⟨occ.index, List.mem_eraseDups.2 (List.mem_map_of_mem hocc), h⟩

/-- Whether the indexes of a document are printed: several indexes are in use, or there is nothing
to print, or the main index is named. -/
def Printed (useIndices : Bool) (doc : Document) : Prop :=
  useIndices = true ∨ doc.occurrences = [] ∨ ∃ occ ∈ doc.occurrences, occ.index = mainIndex

theorem exists_printIndex_iff :
    (∃ command ∈ Target.main.printCommands, command ∈ printLines false doc) ↔
      ∃ occ ∈ doc.occurrences, occ.index = mainIndex := by
  constructor
  · rintro ⟨command, -, hmem⟩
    obtain ⟨hne, occ, hocc, h⟩ := mem_printLines.1 hmem
    refine ⟨occ, hocc, by_contra fun hindex ↦ hne ?_⟩
    rw [← h, printIndex_false, if_neg hindex]
  · rintro ⟨occ, hocc, h⟩
    refine ⟨"\\printindex".toList, List.mem_cons_self, mem_printLines.2
      ⟨List.cons_ne_nil _ _, occ, hocc, ?_⟩⟩
    rw [printIndex_false, if_pos h]

theorem forall_printed_iff (useIndices : Bool) :
    (∀ occ ∈ doc.occurrences,
      ∃ command ∈ (Target.ofIndex useIndices (some occ.index)).printCommands,
        command ∈ printLines useIndices doc) ↔ Printed useIndices doc := by
  cases useIndices with
  | true =>
    refine iff_of_true (fun occ hocc ↦ ?_) (.inl rfl)
    exact ⟨_, Target.printIndex_mem_printCommands occ.index, mem_printLines.2
      ⟨printIndex_ne_nil _, occ, hocc, rfl⟩⟩
  | false =>
    simp only [Target.ofIndex_false, exists_printIndex_iff, Printed, Bool.false_eq_true, false_or]
    cases hoccs : doc.occurrences with
    | nil => exact iff_of_true nofun (.inl rfl)
    | cons occ rest =>
      rw [or_iff_right (List.cons_ne_nil _ _)]
      exact ⟨fun h ↦ h occ List.mem_cons_self, fun h _ _ ↦ h⟩

theorem lines_failure_of_ofLines {ε : Type} {output : Text} {events : List Event}
    {lines : Lines ε} {failure : ε → Failure}
    (h : (Transcript.ofLines tree output events lines failure).failure = none) :
    lines.failure = none := by
  unfold Transcript.ofLines at h
  cases hlines : lines.failure with
  | none => rfl
  | some e =>
    rw [hlines] at h
    cases h

theorem exists_codec {events : List Event} {encoding : Option Text} {run : Validator → Transcript}
    (h : (withValidator lib tree events encoding run).failure = none) :
    ∃ name codec, encoding = some name ∧ lib.encoding name = .ok codec ∧
      withValidator lib tree events encoding run = run codec.validator := by
  unfold withValidator at h ⊢
  cases encoding with
  | none => cases h
  | some name =>
    cases hname : lib.encoding name with
    | ok codec => exact ⟨name, codec, rfl, hname, by simp only [hname]⟩
    | error e => cases e <;> simp [hname, Transcript.fail] at h

theorem exists_settings {f : Document.Format} {input : Input}
    {run : Document → Settings → List Event → Transcript}
    (hdoc : Document.ofFile f tree input.document = .ok doc)
    (h : (input.withDocument f tree run).failure = none) :
    ∃ s, input.settings doc = .ok s ∧
      input.withDocument f tree run = run doc s (Input.unknownSettings doc) := by
  unfold Input.withDocument at h ⊢
  simp only [hdoc] at h ⊢
  cases hs : input.settings doc with
  | ok s => exact ⟨s, rfl, rfl⟩
  | error e => simp [hs, Transcript.fail] at h

/-- The output of a document is its macros and then the print commands. Every index that a macro
writes to has a print command exactly if several indexes are in use, there are no occurrences or one
of them names the main index. -/
theorem printsWritten_iff {input : Input} {dryRun : Bool}
    (hdoc : Document.ofFile lib.format tree input.document = .ok doc)
    (hrun : ((Command.latex input dryRun true).run lib tree).failure = none) :
    ∃ s name codec macros told, input.settings doc = .ok s ∧
      input.encodingName s = some name ∧ lib.encoding name = .ok codec ∧
      Renders (latexOptions s codec.validator (s.dryRun || dryRun)) doc.occurrences macros ∧
      (Command.latex input dryRun true).run lib tree = .ofLines tree input.output
        (Input.unknownSettings doc)
        ⟨macros ++ printLines s.useIndices doc, told, none⟩ Failure.fault ∧
      (PrintsWritten macros (printLines s.useIndices doc) ↔ Printed s.useIndices doc) := by
  rw [Command.run] at hrun ⊢
  obtain ⟨s, hs, hwith⟩ := exists_settings hdoc hrun
  rw [hwith] at hrun ⊢
  simp only [if_true] at hrun ⊢
  obtain ⟨name, codec, hname, hcodec, hvalid⟩ := exists_codec hrun
  let o := latexOptions s codec.validator (s.dryRun || dryRun)
  have hfailure : (latexLines o doc.occurrences).failure = none := by
    rw [hvalid] at hrun
    exact (lines_failure_of_ofLines hrun :)
  have hrenders := renders_of_latexLines hfailure
  refine ⟨s, name, codec, (latexLines o doc.occurrences).lines,
    (latexLines o doc.occurrences).events, hs, hname, hcodec, hrenders, ?_, ?_⟩
  · rw [hvalid, ← hfailure]
  · exact (printsWritten_of_renders hrenders _).trans (forall_printed_iff s.useIndices)

def severalText : Text :=
  ("occurrences:\n- markup: A\n  index: name\n- markup: B\n- markup: C\n  index: 'né]'\n" ++
    "settings:\n  use_indices: true\n").toList

def severalValue : Value :=
  .ofFields [("occurrences".toList, .list
      [.ofFields [("markup".toList, .text "A".toList), ("index".toList, .text "name".toList)],
        .ofFields [("markup".toList, .text "B".toList)],
        .ofFields [("markup".toList, .text "C".toList), ("index".toList, .text "né]".toList)]]),
    ("settings".toList, .ofFields [("use_indices".toList, .bool true)])]

def severalIndexes : Document :=
  { occurrences :=
      [⟨"A".toList, [], none, "name".toList⟩, ⟨"B".toList, [], none, mainIndex⟩,
        ⟨"C".toList, [], none, "né]".toList⟩]
    settings := [(.text "use_indices".toList, .bool true)] }

def severalTree : Files.Tree := .ofList [("d.yaml".toList, .file severalText)]

def severalLibraries : Libraries :=
  .ofTables [(severalText, severalValue)] [("utf-8".toList, .charset .utf8)]

theorem printsWritten_iff_several :
    Document.ofFile severalLibraries.format severalTree documentInput.document =
      .ok severalIndexes ∧
    ((Command.latex documentInput false true).run severalLibraries severalTree).failure = none ∧
    ∃ s name codec macros told, documentInput.settings severalIndexes = .ok s ∧
      documentInput.encodingName s = some name ∧ severalLibraries.encoding name = .ok codec ∧
      Renders (latexOptions s codec.validator (s.dryRun || false)) severalIndexes.occurrences
        macros ∧
      (Command.latex documentInput false true).run severalLibraries severalTree =
        .ofLines severalTree documentInput.output (Input.unknownSettings severalIndexes)
          ⟨macros ++ printLines s.useIndices severalIndexes, told, none⟩ Failure.fault ∧
      PrintsWritten macros (printLines s.useIndices severalIndexes) := by
  have hdoc : Document.ofFile severalLibraries.format severalTree documentInput.document =
      .ok severalIndexes :=
    Document.ofFile_of_stores (Document.stores_ofTexts severalText (by decide +kernel)
      (by decide +kernel) List.lookup_cons_self) rfl
  have hrun : ((Command.latex documentInput false true).run severalLibraries
      severalTree).failure = none := by decide +kernel
  obtain ⟨s, name, codec, macros, told, hs, hname, hcodec, hrenders, hout, hiff⟩ :=
    printsWritten_iff hdoc hrun
  have hprinted : Printed s.useIndices severalIndexes := by
    have hdefault : documentInput.settings severalIndexes =
        .ok { Settings.default with useIndices := true } := by rfl
    rw [← Except.ok.inj (hdefault.symm.trans hs)]
    exact .inl rfl
  exact ⟨hdoc, hrun, s, name, codec, macros, told, hs, hname, hcodec, hrenders, hout,
    hiff.2 hprinted⟩

def otherText : Text := "occurrences:\n- markup: A\n  index: name\n".toList

def otherIndex : Document := ⟨[⟨"A".toList, [], none, "name".toList⟩], []⟩

def otherTree : Files.Tree := .ofList [("d.yaml".toList, .file otherText)]

def otherLibraries : Libraries :=
  .ofTables [(otherText, .ofFields [("occurrences".toList, .list
    [.ofFields [("markup".toList, .text "A".toList), ("index".toList, .text "name".toList)]])])]
    [("utf-8".toList, .charset .utf8)]

theorem run_latex_of_otherIndex :
    Document.ofFile otherLibraries.format otherTree "d.yaml".toList = .ok otherIndex ∧
    (∀ occ ∈ otherIndex.occurrences, occ.index ≠ []) ∧
    let r := run otherLibraries otherTree ["latex".toList, "d.yaml".toList, "--print-index".toList]
    r.status = .exit 0 ∧ r.stdout = "\\index\x7bA\x7d\n".toList ∧
    Target.written? "\\index\x7bA\x7d".toList = some .main ∧
    ∀ command ∈ Target.main.printCommands, Text.occurs command r.stdout = false := by
  have hdoc : Document.ofFile otherLibraries.format otherTree "d.yaml".toList = .ok otherIndex :=
    Document.ofFile_of_stores (Document.stores_ofTexts otherText (by decide +kernel)
      (by decide +kernel) List.lookup_cons_self) rfl
  refine ⟨hdoc, ?_, ?_, ?_, ?_, ?_⟩
  · intro occ hocc
    rw [List.mem_singleton.1 hocc]
    exact List.cons_ne_nil _ _
  · decide +kernel
  · decide +kernel
  · decide
  · decide +kernel

end BookIndex.CommandLine
