import BookIndex.Document.Basic
import BookIndex.Document.Format
import BookIndex.Files.Glob
import BookIndex.Tex.Scan

namespace BookIndex.Document

open Files

inductive OpenError where
  | notFound (path : Text)
  | file (e : Files.Error)
  /-- The file cannot be read as a value. -/
  | fault (path : Text) (e : Fault)
  | load (path : Text) (e : LoadError)
  deriving DecidableEq, Repr

namespace OpenError

def message : OpenError → Text
  | notFound path => "Occurrence file ".toList ++ path ++ " not found".toList
  | file e => e.message
  | fault path (.form message) => "Invalid YAML in ".toList ++ path ++ ": ".toList ++ message
  | fault _ e => e.message
  | load path e => e.message path

def isReported : OpenError → Bool
  | notFound _ => true
  | file e => e.reason != .nul
  | fault _ (.form _) => true
  | fault _ _ => false
  | load _ e => e.isReported

end OpenError

/-- Loads the file at a path into a document, which may have changed when that fails. -/
def loadFile (f : Format) (doc : Document) (tree : Tree) (path : Text) :
    Document × Option OpenError :=
  match tree.read path with
  | .error e => (doc, some (.file e))
  | .ok content =>
    match f.parse (Text.unifyLines content) with
    | .error e => (doc, some (.fault path e))
    | .ok v =>
      let (doc, e) := doc.load v
      (doc, e.map (.load path))

def ofFile (f : Format) (tree : Tree) (path : Text) : Except OpenError Document :=
  if path.isEmpty then .ok empty
  else if (tree.find? path).isNone then .error (.notFound path)
  else match empty.loadFile f tree path with
    | (doc, none) => .ok doc
    | (_, some e) => .error e

def save (f : Format) (doc : Document) (tree : Tree) (path : Text) : Except Files.Error Tree :=
  tree.write path (f.print doc.toValue)

def scanFile (tree : Tree) (path source : Text) : Except Files.Error (List Occurrence) := do
  let content ← tree.read path
  return Tex.scan (if source.isEmpty then path else source) (Text.unifyLines content)

/-- Takes the names of a path in order, each `..` with the name before it. -/
def normalizeParts : List Text → List Text → List Text
  | done, [] => done.reverse
  | done, part :: parts =>
    if part.isEmpty || part == ['.'] then normalizeParts done parts
    else if part == ['.', '.'] then
      match done with
      | [] => normalizeParts [part] parts
      | last :: before =>
        if last == ['.', '.'] then normalizeParts (part :: done) parts
        else normalizeParts before parts
    else normalizeParts (part :: done) parts

def dropCommon : List Text → List Text → List Text × List Text
  | a :: as, b :: bs => if a = b then dropCommon as bs else (a :: as, b :: bs)
  | as, bs => (as, bs)

/-- The way from a directory to a path, by their names alone. -/
def relativePath (path directory : Text) : Text :=
  let (up, down) := dropCommon (normalizeParts [] (Tree.parts directory))
    (normalizeParts [] (Tree.parts path))
  ['/'].intercalate (up.map (fun _ ↦ ['.', '.']) ++ down)

def scanDirectory (tree : Tree) (directory : Text) : Except Files.Error Document := do
  let paths ← Glob.findBelow tree directory "*.tex".toList
  let found ← paths.mapM fun path ↦ scanFile tree path (relativePath path directory)
  return ⟨found.flatten, []⟩

end BookIndex.Document
