import BookIndex.Fault
import BookIndex.Text.Quoted
import BookIndex.Value.Decimal

namespace BookIndex

/-- How a value shows itself: the name of its kind, whether it counts as true, its text, which is not
empty then, and its text within another value. -/
structure Look where
  kind : Text
  truthy : Bool
  text : Except Fault Text
  shown : Except Fault Text
  text_ne_nil : truthy = true → text ≠ .ok []
  deriving Repr

inductive Value where
  | null
  | bool (b : Bool)
  | int (n : Int)
  | decimal (d : Decimal)
  | text (s : Text)
  | list (items : List Value)
  /-- The fields of a mapping in order, no key twice. -/
  | mapping (fields : List (Value × Value))
  /-- A value of another kind, such as a date or a set, by what can be seen of it. -/
  | other (look : Look) (members : Option (List Value))
  deriving Repr, Inhabited

namespace Value

abbrev Fields := List (Value × Value)

def ofFields (fields : List (Text × Value)) : Value :=
  mapping (fields.map fun field ↦ (text field.1, field.2))

def truthy : Value → Bool
  | null => false
  | bool b => b
  | int n => n != 0
  | decimal d => !d.isZero
  | text s => !s.isEmpty
  | list items => !items.isEmpty
  | mapping fields => !fields.isEmpty
  | other look _ => look.truthy

def isNull : Value → Bool
  | null => true
  | _ => false

def kindName : Value → Text
  | null => "NoneType".toList
  | bool _ => "bool".toList
  | int _ => "int".toList
  | decimal _ => "float".toList
  | text _ => "str".toList
  | list _ => "list".toList
  | mapping _ => "dict".toList
  | other look _ => look.kind

/-- The items of a list, the characters of a text, the keys of a mapping; other kinds of values may
have members, too. -/
def members? : Value → Option (List Value)
  | list items => some items
  | text s => some (s.map fun c ↦ text [c])
  | mapping fields => some (fields.map Prod.fst)
  | other _ members => members
  | _ => none

def asText? : Value → Option Text
  | text s => some s
  | _ => none

def field? (fields : Fields) (name : String) : Option Value :=
  (fields.find? fun field ↦ field.1.asText? == some name.toList).map Prod.snd

def get (fields : Fields) (name : String) : Value := (field? fields name).getD null

/-- With how many digits a whole number is written at most. -/
def maxDigits : Nat := 4300

def tooManyDigits : Fault :=
  .unfit ("Exceeds the limit (".toList ++ Text.ofNat maxDigits ++
    " digits) for integer string conversion; ".toList ++
    "use sys.set_int_max_str_digits() to increase the limit".toList)

def intText (n : Int) : Except Fault Text :=
  if (Text.ofNat n.natAbs).length ≤ maxDigits then .ok (Text.ofInt n) else .error tooManyDigits

mutual

def shown : Value → Except Fault Text
  | null => .ok "None".toList
  | bool true => .ok "True".toList
  | bool false => .ok "False".toList
  | int n => intText n
  | decimal d => .ok d.text
  | text s => .ok (Text.quoted s)
  | list items => (shownItems items).map fun s ↦ '[' :: s ++ [']']
  | mapping fields => (shownFields fields).map fun s ↦ '{' :: s ++ ['}']
  | other look _ => look.shown

def shownItems : List Value → Except Fault Text
  | [] => .ok []
  | [v] => shown v
  | v :: vs => do return (← shown v) ++ ", ".toList ++ (← shownItems vs)

def shownFields : List (Value × Value) → Except Fault Text
  | [] => .ok []
  | [(k, v)] => do return (← shown k) ++ ": ".toList ++ (← shown v)
  | (k, v) :: rest => do
    return (← shown k) ++ ": ".toList ++ (← shown v) ++ ", ".toList ++ (← shownFields rest)

end

def toText : Value → Except Fault Text
  | text s => .ok s
  | other look _ => look.text
  | v => v.shown

def toText? : Value → Except Fault (Option Text)
  | null => .ok none
  | v => v.toText.map some

end Value
end BookIndex
