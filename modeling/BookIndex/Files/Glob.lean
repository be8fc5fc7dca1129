import BookIndex.Files.Tree

namespace BookIndex.Files.Glob

inductive Member where
  | one (c : Char)
  | range (a b : Char)
  deriving DecidableEq, Repr

inductive Item where
  | char (c : Char)
  | any
  | star
  | set (negated : Bool) (members : List Member)
  deriving DecidableEq, Repr

def isMagic (part : Text) : Bool := part.any fun c ↦ c == '*' || c == '?' || c == '['

namespace Member

def ofText : Text → List Member
  | a :: '-' :: b :: s => range a b :: ofText s
  | a :: s => one a :: ofText s
  | [] => []

def isEmpty : Member → Bool
  | one _ => false
  | range a b => b < a

def has : Member → Char → Bool
  | one c, d => c == d
  | range a b, d => a ≤ d && d ≤ b

end Member

/-- The set of some members, of which empty ranges are dropped first. An exclamation mark that is
then in the first place negates the set; a hyphen behind it stands for itself. -/
def Item.ofMembers (members : List Member) : Item :=
  match members.filter (!·.isEmpty) with
  | .one '!' :: rest => .set true rest
  | .range '!' b :: rest => .set true (.one '-' :: .one b :: rest)
  | rest => .set false rest

def setText? (s : Text) : Option Text :=
  match s with
  | [] => none
  | c :: s => if s.contains ']' then some (c :: s.takeWhile (· != ']')) else none

def set? (s : Text) : Option (Item × Nat) :=
  match s with
  | '!' :: s =>
    (setText? s).map fun set ↦ (.ofMembers (.one '!' :: Member.ofText set), set.length + 2)
  | s => (setText? s).map fun set ↦ (.ofMembers (Member.ofText set), set.length + 1)

def itemsFrom : Nat → Text → List Item
  | _, [] => []
  | skip + 1, _ :: s => itemsFrom skip s
  | 0, c :: s =>
    if c = '*' then .star :: itemsFrom 0 s
    else if c = '?' then .any :: itemsFrom 0 s
    else if c = '[' then
      match set? s with
      | some (set, length) => set :: itemsFrom length s
      | none => .char '[' :: itemsFrom 0 s
    else .char c :: itemsFrom 0 s

def Item.accepts : Item → Char → Bool
  | char c, d => c == d
  | any, _ | star, _ => true
  | set negated members, d => negated != members.any (·.has d)

/-- Whether a predicate holds of a text or of what is left of it without some first characters. -/
def anySuffix (p : Text → Bool) : Text → Bool
  | [] => p []
  | c :: s => p (c :: s) || anySuffix p s

def accepts : List Item → Text → Bool
  | [], s => s.isEmpty
  | .star :: items, s => anySuffix (accepts items) s
  | item :: items, s =>
    match s with
    | [] => false
    | c :: s => item.accepts c && accepts items s

def isHidden (name : Text) : Bool := name.head? == some '.'

def nameMatches (part name : Text) : Bool :=
  (isHidden part || !isHidden name) && accepts (itemsFrom 0 part) name

def join (path name : Text) : Text :=
  if path.isEmpty || path.getLast? = some '/' then path ++ name else path ++ '/' :: name

def directory? (tree : Tree) (path : Text) : Option Location :=
  if path.isEmpty then some []
  else match tree.locate path with
    | .ok place => if tree.isDirectory place then some place else none
    | .error _ => none

def below (tree : Tree) : (depth : Nat) → Location → List Text
  | 0, _ => []
  | depth + 1, place =>
    (tree.names place).flatMap fun name ↦
      if isHidden name || !tree.isDirectory (place ++ [name]) then []
      else name :: (below tree depth (place ++ [name])).map (join name)

def expand (tree : Tree) (last : Bool) (part path : Text) : List Text :=
  if part == ['*', '*'] then
    let found := match directory? tree path with
      | some place => below tree tree.length place
      | none => []
    join path [] :: found.map (join path)
  else if isMagic part then
    match directory? tree path with
    | some place =>
      ((tree.names place).filter fun name ↦
        nameMatches part name && (last || tree.isDirectory (place ++ [name]))).map (join path)
    | none => []
  else if (tree.find? (join path part)).isSome then [join path part] else []

def expandAll (tree : Tree) : List Text → Text → List Text
  | [], path => [path]
  | part :: parts, path =>
    (expand tree parts.isEmpty part path).flatMap (expandAll tree parts)

/-- The part of a pattern without magic, up to the slash before the first part with magic, and the
parts from there on. -/
def splitPattern (pattern : Text) : Text × List Text :=
  let parts := Tree.parts pattern
  let literal := parts.takeWhile (!isMagic ·)
  (Tree.trimSlashes (['/'].intercalate (literal ++ [[]])),
    (parts.drop literal.length).filter (!·.isEmpty))

/-- The files with a name pattern in a directory and below, in code point order. -/
def findBelow (tree : Tree) (directory namePattern : Text) : Except Error (List Text) :=
  let (path, parts) := splitPattern (join (join directory ['*', '*']) namePattern)
  if path.contains '\x00' then .error ⟨.nul, path⟩
  else .ok ((expandAll tree parts path).mergeSort Text.le)

end BookIndex.Files.Glob
