import BookIndex.CommandLine.Arguments
import BookIndex.Occurrence

namespace BookIndex.CommandLine

structure Input where
  document : Text
  /-- The file that is written; without a name it is the standard output. -/
  output : Text
  useIndices : Bool
  escape : Option Text
  /-- The encoding, if one was given, which may have been given without a name. -/
  encoding : Option (Option Text)
  deriving Repr

/-- The commands. The output of a scan and the index of an XHTML output may lack a name. -/
inductive Command where
  | scan (directory : Text) (output : Option Text)
  | latex (input : Input) (dryRun printIndex : Bool)
  | docbook (input : Input)
  | xhtml (input : Input) (index : Option Text)
  | check (input : Input)
  deriving Repr

namespace Command

def name : Command → Text
  | scan .. => "scan".toList
  | latex .. => "latex".toList
  | docbook _ => "docbook".toList
  | xhtml .. => "xhtml".toList
  | check _ => "check".toList

end Command

def helpSpec : OptionSpec := ⟨"help", ["-h", "--help"], .help⟩

def outputSpec : OptionSpec := ⟨"output", ["--output", "-o"], .value⟩

def encodingSpec : OptionSpec := ⟨"encoding", ["--encoding"], .value⟩

def leadingSpecs : List OptionSpec := [helpSpec, ⟨"verbose", ["-v", "--verbose"], .flag⟩]

def scanSpecs : List OptionSpec := [helpSpec, outputSpec]

def inputSpecs : List OptionSpec :=
  [helpSpec, outputSpec, ⟨"use-indices", ["--use-indices"], .flag⟩,
    ⟨"escape-char", ["--escape-char"], .value⟩]

def latexSpecs : List OptionSpec :=
  inputSpecs ++ [encodingSpec, ⟨"dry-run", ["--dry-run"], .flag⟩,
    ⟨"print-index", ["--print-index"], .flag⟩]

def xhtmlSpecs : List OptionSpec := inputSpecs ++ [⟨"index", ["--index"], .value⟩]

def checkSpecs : List OptionSpec := inputSpecs ++ [encodingSpec]

def Parsed.input (p : Parsed) : Input where
  document := p.operand
  output := (p.given? "output").join.getD []
  useIndices := p.has "use-indices"
  escape := (p.given? "escape-char").map (·.getD [])
  encoding := p.given? "encoding"

def Command.ofArgs (name : Text) (args : List Text) : Except Stop Command :=
  if name == "scan".toList then do
    let p ← parse scanSpecs args
    return .scan p.operand ((p.given? "output").getD (some "occurrences.yaml".toList))
  else if name == "latex".toList then do
    let p ← parse latexSpecs args
    return .latex p.input (p.has "dry-run") (p.has "print-index")
  else if name == "docbook".toList then do
    return .docbook (← parse inputSpecs args).input
  else if name == "xhtml".toList then do
    let p ← parse xhtmlSpecs args
    return .xhtml p.input ((p.given? "index").getD (some mainIndex))
  else if name == "check".toList then do
    return .check (← parse checkSpecs args).input
  else .error .usage

structure Invocation where
  verbose : Bool
  command : Command
  deriving Repr

def Invocation.ofArgs (args : List Text) : Except Stop Invocation := do
  let leading ← parseLeading leadingSpecs args
  let command ← Command.ofArgs leading.command leading.args
  if leading.extra then .error .usage
  else return ⟨(leading.given.lookup "verbose").isSome, command⟩

end BookIndex.CommandLine
