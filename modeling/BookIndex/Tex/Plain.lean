import BookIndex.Text.Letter

namespace BookIndex.Tex

def optionLength : Text → Nat
  | '[' :: s => if s.contains ']' then (s.takeWhile (· != ']')).length + 2 else 0
  | _ => 0

/-- The length of a command name behind a backslash, with a star and an optional argument; without
a name it is zero. -/
def commandLength (s : Text) : Nat :=
  let name := s.takeWhile Text.isLatinLetter
  if name.isEmpty then 0
  else
    let rest := s.drop name.length
    let star := if rest.head? = some '*' then 1 else 0
    name.length + star + optionLength (rest.drop star)

def dropCommandsFrom : Nat → Text → Text
  | _, [] => []
  | skip + 1, _ :: s => dropCommandsFrom skip s
  | 0, c :: s =>
    if c = '\\' then
      match commandLength s with
      | 0 => c :: dropCommandsFrom 0 s
      | n + 1 => dropCommandsFrom (n + 1) s
    else c :: dropCommandsFrom 0 s

/-- Drops the commands but not their arguments in braces. -/
def dropCommands (s : Text) : Text := dropCommandsFrom 0 s

def isGrouping (c : Char) : Bool := c == '{' || c == '}' || c == '$'

def dropGroupingFrom : Option Char → Text → Text
  | _, [] => []
  | prev, c :: s =>
    let rest := dropGroupingFrom (some c) s
    if isGrouping c && prev != some '\\' then rest else c :: rest

def dropGrouping (s : Text) : Text := dropGroupingFrom none s

def isEscapable (c : Char) : Bool := "#$%&_\x7b\x7d".toList.contains c

def unescape : Text → Text
  | [] => []
  | [c] => [c]
  | c :: d :: s => if c = '\\' && isEscapable d then d :: unescape s else c :: unescape (d :: s)

def isSpace (c : Char) : Bool := c == ' ' || c == '\t' || c == '\n'

def collapseFrom (inRun : Bool) : Text → Text
  | [] => []
  | c :: s =>
    if isSpace c then if inRun then collapseFrom true s else ' ' :: collapseFrom true s
    else c :: collapseFrom false s

def collapse (s : Text) : Text := collapseFrom false s

def untie (c : Char) : Char := if c = '~' then ' ' else c

def plain (s : Text) : Text :=
  Text.trim (collapse ((unescape (dropGrouping (dropCommands s))).map untie))

end BookIndex.Tex
