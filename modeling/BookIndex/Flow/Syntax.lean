import BookIndex.Value.Basic
import BookIndex.Value.Binary

namespace BookIndex.Flow

def readableRanges : Text.Ranges :=
  [(0x09, 0x0A), (0x0D, 0x0D), (0x20, 0x7E), (0x85, 0x85), (0xA0, 0xD7FF), (0xE000, 0xFFFD),
    (0x10000, 0x10FFFF)]

def isReadable (c : Char) : Bool := readableRanges.has c

def isBreak (c : Char) : Bool := c == '\n' || c == '\x85' || c == '\u2028' || c == '\u2029'

def isGap (c : Char) : Bool := c == ' ' || c == '\t' || isBreak c

def foldGap (gap : Text) : Text :=
  match (gap.filter isBreak).map fun c ↦ if c == '\x85' then '\n' else c with
  | [] => gap
  | ['\n'] => [' ']
  | '\n' :: rest => rest
  | breaks => breaks

def skipFrom : (comment : Bool) → Text → Text
  | _, [] => []
  | true, c :: s => skipFrom (!isBreak c) s
  | false, c :: s =>
    if c == ' ' || isBreak c then skipFrom false s
    else if c == '#' then skipFrom true s
    else c :: s

def skip (s : Text) : Text := skipFrom false s

def setField (key : Text) (v : Value) : List (Text × Value) → List (Text × Value)
  | [] => [(key, v)]
  | field :: rest => if field.1 = key then (key, v) :: rest else field :: setField key v rest

def hexValue? (c : Char) : Option Nat :=
  if '0' ≤ c && c ≤ '9' then some (c.toNat - 0x30)
  else if 'a' ≤ c && c ≤ 'f' then some (c.toNat - 0x57)
  else if 'A' ≤ c && c ≤ 'F' then some (c.toNat - 0x37)
  else none

def unit? : Text → Option (Nat × Text)
  | a :: b :: c :: d :: s => do
    let a ← hexValue? a
    let b ← hexValue? b
    let c ← hexValue? c
    let d ← hexValue? d
    return (((a * 16 + b) * 16 + c) * 16 + d, s)
  | _ => none

def numbered? (s : Text) : Option (Char × Text) := do
  let (high, rest) ← unit? s
  if 0xD800 ≤ high && high < 0xDC00 then
    let rest ← ['\\', 'u'].isPrefixOf? rest
    let (low, rest) ← unit? rest
    if 0xDC00 ≤ low && low < 0xE000 then
      return (Char.ofNat (0x10000 + (high - 0xD800) * 0x400 + (low - 0xDC00)), rest)
    else none
  else if 0xDC00 ≤ high && high < 0xE000 then none
  else return (Char.ofNat high, rest)

def simpleEscape? : Char → Option Char
  | '"' => some '"'
  | '\\' => some '\\'
  | '/' => some '/'
  | 'b' => some '\x08'
  | 'f' => some '\x0c'
  | 'n' => some '\n'
  | 'r' => some '\r'
  | 't' => some '\t'
  | _ => none

def quoted? : (fuel : Nat) → Text → Option (Text × Text)
  | 0, _ => none
  | _ + 1, '"' :: s => some ([], s)
  | fuel + 1, '\\' :: 'u' :: s => do
    let (c, s) ← numbered? s
    let (rest, s) ← quoted? fuel s
    return (c :: rest, s)
  | fuel + 1, '\\' :: c :: s => do
    let c ← simpleEscape? c
    let (rest, s) ← quoted? fuel s
    return (c :: rest, s)
  | fuel + 1, c :: s => do
    let gap := (c :: s).takeWhile isGap
    if gap.isEmpty then
      let (rest, s) ← quoted? fuel s
      return (c :: rest, s)
    else
      let (rest, s) ← quoted? fuel ((c :: s).dropWhile isGap)
      return (foldGap gap ++ rest, s)
  | _ + 1, [] => none

def isDigit (c : Char) : Bool := '0' ≤ c && c ≤ '9'

def natOf (digits : Text) : Nat := digits.foldl (fun n c ↦ n * 10 + (c.toNat - 0x30)) 0

structure Exponent where
  value : Int
  /-- Whether it is written with its sign. -/
  signed : Bool
  deriving DecidableEq, Repr

def exponent? : Text → Option (Option Exponent × Text)
  | c :: s =>
    if c == 'e' || c == 'E' then
      let sign := if s.head? = some '-' then (-1 : Int) else 1
      let signed := s.head? = some '-' || s.head? = some '+'
      let s := if signed then s.tail else s
      let digits := s.takeWhile isDigit
      if digits.isEmpty then none
      else some (some ⟨sign * natOf digits, signed⟩, s.dropWhile isDigit)
    else some (none, c :: s)
  | [] => some (none, [])

def fraction? : Text → Option (Option Text × Text)
  | '.' :: s =>
    let digits := s.takeWhile isDigit
    if digits.isEmpty then none else some (some digits, s.dropWhile isDigit)
  | s => some (none, s)

/-- A number: a whole one, or a decimal fraction, whose exponent needs a sign. A fraction is read as
a binary number. A number with an exponent that is neither is a text. -/
def number? (s : Text) : Option (Value × Text) := do
  let sign := if s.head? = some '-' then (-1 : Int) else 1
  let unsigned := if s.head? = some '-' then s.tail else s
  let whole := unsigned.takeWhile isDigit
  if whole.isEmpty || (whole.length > 1 && whole.head? = some '0') then none
  else
    let (fraction, rest) ← fraction? (unsigned.dropWhile isDigit)
    let (exponent, rest) ← exponent? rest
    let decimal (digits : Text) (e : Int) : Value :=
      .decimal (Decimal.shortest ⟨sign * natOf (whole ++ digits), e - digits.length⟩)
    match fraction, exponent with
    | none, none => return (.int (sign * natOf whole), rest)
    | some digits, none => return (decimal digits 0, rest)
    | some digits, some ⟨e, true⟩ => return (decimal digits e, rest)
    | _, some _ => return (.text (s.take (s.length - rest.length)), rest)

def word? (s : Text) : Option (Value × Text) :=
  [("null", Value.null), ("true", .bool true), ("false", .bool false)].findSome? fun (word, v) ↦
    (word.toList.isPrefixOf? s).map fun rest ↦ (v, rest)

def endsWord (c : Char) : Bool := isGap c || c == ',' || c == ']' || c == '\x7d'

def canBeKey (written : Text) : Bool := written.length ≤ 1024 && !written.any isBreak

def key? (s : Text) : Option (Text × Text) :=
  match s with
  | '"' :: rest => do
    let (key, after) ← quoted? (rest.length + 1) rest
    let value ← [':'].isPrefixOf? (skip after)
    if canBeKey (s.take (s.length - (value.length + 1))) then return (key, value) else none
  | _ => none

mutual

def value? : (fuel : Nat) → Text → Option (Value × Text)
  | 0, _ => none
  | fuel + 1, s =>
    match skip s with
    | '"' :: s => (quoted? (s.length + 1) s).map fun r ↦ (.text r.1, r.2)
    | '[' :: s =>
      match skip s with
      | ']' :: s => some (.list [], s)
      | s => (items? fuel s).map fun r ↦ (.list r.1, r.2)
    | '{' :: s =>
      match skip s with
      | '}' :: s => some (.mapping [], s)
      | s => (fields? fuel [] s).map fun r ↦ (.ofFields r.1, r.2)
    | s => (word? s <|> number? s).filter fun r ↦ r.2.head?.all endsWord

def items? : (fuel : Nat) → Text → Option (List Value × Text)
  | 0, _ => none
  | fuel + 1, s => do
    let (v, s) ← value? fuel s
    match skip s with
    | ',' :: s =>
      let (vs, s) ← items? fuel s
      return (v :: vs, s)
    | ']' :: s => return ([v], s)
    | _ => none

def fields? :
    (fuel : Nat) → List (Text × Value) → Text → Option (List (Text × Value) × Text)
  | 0, _, _ => none
  | fuel + 1, fields, s => do
    let (key, s) ← key? (skip s)
    let (v, s) ← value? fuel s
    let fields := setField key v fields
    match skip s with
    | ',' :: s => fields? fuel fields s
    | '}' :: s => return (fields, s)
    | _ => none

end

def flow? (s : Text) : Option Value := do
  let (v, rest) ← value? (s.length + 1) s
  if (skip rest).isEmpty then return v else none

def escapeChar (c : Char) : Text :=
  if c == '"' || c == '\\' then ['\\', c]
  else if c == '\n' then "\\n".toList
  else if isReadable c && c != '\t' && !isBreak c then [c]
  else '\\' :: 'u' :: Text.hexDigits 4 c.toNat

def printText (s : Text) : Text := '"' :: s.flatMap escapeChar ++ ['"']

def printDecimal (d : Decimal) : Text :=
  let t := d.text
  if t.contains '.' then t
  else t.takeWhile (· != 'e') ++ ".0".toList ++ t.dropWhile (· != 'e')

mutual

def print : Value → Text
  | .null => "null".toList
  | .bool true => "true".toList
  | .bool false => "false".toList
  | .int n => Text.ofInt n
  | .decimal d => printDecimal d
  | .text s => printText s
  | .list items => '[' :: printItems items ++ [']']
  | .mapping fields => '{' :: printFields fields ++ ['}']
  | .other look _ => printText ((look.text.toOption).getD [])

def printItems : List Value → Text
  | [] => []
  | [v] => print v
  | v :: vs => print v ++ ", ".toList ++ printItems vs

def printFields : List (Value × Value) → Text
  | [] => []
  | [(k, v)] => print k ++ ": ".toList ++ print v
  | (k, v) :: rest => print k ++ ": ".toList ++ print v ++ ", ".toList ++ printFields rest

end

end BookIndex.Flow
