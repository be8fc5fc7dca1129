import BookIndex.Latex.Label
import BookIndex.Latex.SortKey

namespace BookIndex.Latex

open Markup

structure Options where
  validator : Validator
  escape : Text
  useIndices : Bool
  /-- Keys are made for reading: they keep lost characters, and their changes are not reported. -/
  preview : Bool
  /-- The markup is written as it stands. -/
  verbatim : Bool

def keyedLevel (level : Text) : Option Text → Text
  | some key => key ++ '@' :: level
  | none => level

/-- The levels behind their sort keys; levels without a counterpart have none. -/
def keyedLevels : List Text → List (Option Text) → List Text
  | [], _ => []
  | levels, [] => levels
  | level :: levels, key :: keys => keyedLevel level key :: keyedLevels levels keys

def macroBody (levels : List Text) (keys : List (Option Text)) (command : Option Text) : Text :=
  ['!'].intercalate (keyedLevels levels keys) ++
    match command with
    | none | some [] => []
    | some command => '|' :: command

def renderLevels (useIndices : Bool) (index : Option Text) (levels : List Text)
    (keys : List (Option Text)) (command : Option Text) : Text :=
  indexMacro useIndices index ++ macroBody levels keys command ++ ['}']

def sortKeys (o : Options) :
    List Text → List Text → Except Fault (List (Option Text) × List Diagnostic)
  | [], _ => return ([], [])
  | level :: levels, plains => do
    let (key, log) ←
      if needsSortKey o.escape level then do
        let (key, log) ← sortKey o.validator o.preview o.escape level (plains.headD [])
        pure (some key, log)
      else pure (none, [])
    let (keys, logs) ← sortKeys o levels plains.tail
    return (key :: keys, log ++ logs)

def render (o : Options) (markup plain : Text) (index : Option Text) :
    Except Fault (Text × List Diagnostic) :=
  if o.verbatim then return (indexMacro o.useIndices index ++ markup ++ ['}'], [])
  else do
    let (levels, command) := splitMarkup o.escape markup
    let (plains, _) := splitMarkup o.escape plain
    let (keys, log) ← sortKeys o levels plains
    return (renderLevels o.useIndices index levels keys command, log)

/-- Whether an entry has a command that its plain text shows no trace of. -/
def plainLacksCommand (o : Options) (markup plain : Text) : Bool :=
  !o.verbatim && (splitCommand o.escape markup).2.isSome && !plain.isEmpty &&
    (splitCommand o.escape plain).2.isNone

end BookIndex.Latex
