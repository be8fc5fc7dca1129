import BookIndex.Text.Basic

namespace BookIndex.Xml

/-- Attributes in order, no name twice. -/
abbrev Attrs := List (Text × Text)

namespace Attrs

def set (name value : Text) : Attrs → Attrs
  | [] => [(name, value)]
  | a :: rest => if a.1 = name then (name, value) :: rest else a :: set name value rest

def ofList (as : List (Text × Text)) : Attrs := as.foldl (fun attrs a ↦ attrs.set a.1 a.2) []

end Attrs

def escapeChar : Char → Text
  | '&' => "&amp;".toList
  | '<' => "&lt;".toList
  | '>' => "&gt;".toList
  | c => [c]

def escapeAttrChar : Char → Text
  | '"' => "&quot;".toList
  | '\'' => "&apos;".toList
  | c => escapeChar c

def escape (s : Text) : Text := s.flatMap escapeChar

def escapeAttr (s : Text) : Text := s.flatMap escapeAttrChar

inductive Token where
  | start (name : Text) (attrs : Attrs) (quote : Text)
  | finish (name : Text)
  | empty (name : Text) (attrs : Attrs) (quote : Text)
  | data (s : Text)
  deriving DecidableEq, Repr

def writeAttrs (quote : Text) (attrs : Attrs) : Text :=
  attrs.flatMap fun a ↦ ' ' :: a.1 ++ '=' :: quote ++ escapeAttr a.2 ++ quote

def Token.write : Token → Text
  | start name attrs quote => '<' :: name ++ writeAttrs quote attrs ++ ['>']
  | finish name => '<' :: '/' :: name ++ ['>']
  | empty name attrs quote => '<' :: name ++ writeAttrs quote attrs ++ " />".toList
  | data s => escape s

def write (tokens : List Token) : Text := tokens.flatMap Token.write

def element (name s : Text) (attrs : Attrs) (quote : Text) : List Token :=
  [.start name attrs quote, .data s, .finish name]

@[simp] theorem write_nil : write [] = [] := rfl

@[simp] theorem write_cons (t : Token) (ts : List Token) : write (t :: ts) = t.write ++ write ts :=
  List.flatMap_cons

@[simp] theorem write_append (ts us : List Token) : write (ts ++ us) = write ts ++ write us :=
  List.flatMap_append

end BookIndex.Xml
