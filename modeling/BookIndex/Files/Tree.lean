import BookIndex.Text.Quoted

namespace BookIndex.Files

inductive Node where
  | directory
  | file (content : Text)
  deriving DecidableEq, Repr

abbrev Location := List Text

/-- The files and the directories, the working directory apart. -/
abbrev Tree := List (Location × Node)

inductive Reason where
  | missing | notDirectory | isDirectory | nameTooLong
  /-- The path has a null character in it and names nothing. -/
  | nul
  deriving DecidableEq, Repr

structure Error where
  reason : Reason
  path : Text
  deriving DecidableEq, Repr

def Error.message (e : Error) : Text :=
  match e.reason with
  | .missing => "[Errno 2] No such file or directory: ".toList ++ Text.quoted e.path
  | .notDirectory => "[Errno 20] Not a directory: ".toList ++ Text.quoted e.path
  | .isDirectory => "[Errno 21] Is a directory: ".toList ++ Text.quoted e.path
  | .nameTooLong => "[Errno 36] File name too long: ".toList ++ Text.quoted e.path
  | .nul => "embedded null byte".toList

namespace Tree

def isTop (place : Location) : Bool := place.all fun part ↦ part.isEmpty || part == ['.', '.']

/-- The place of a file that stays empty whatever is written to it. -/
def sink : Location := [[], "dev".toList, "null".toList]

/-- What stands at a place. The working directory and those above it are always there, and so is the
sink. -/
def node? (tree : Tree) (place : Location) : Option Node :=
  if isTop place || place == sink.dropLast then some .directory
  else if place == sink then some (.file [])
  else tree.lookup place

def isDirectory (tree : Tree) (place : Location) : Bool := tree.node? place == some .directory

def put (place : Location) (node : Node) : Tree → Tree
  | [] => [(place, node)]
  | entry :: rest => if entry.1 = place then (place, node) :: rest else entry :: put place node rest

def grow (tree : Tree) (place : Location) (node : Node) : Tree :=
  ((List.range place.length).foldl
    (fun t n ↦ if n = 0 then t else t.put (place.take n) .directory) tree).put place node

def parts (path : Text) : List Text := path.splitOn '/'

def above (place : Location) : Location :=
  match place.getLast? with
  | none => [['.', '.']]
  | some last =>
    if last.isEmpty then place
    else if last == ['.', '.'] then place ++ [['.', '.']]
    else place.dropLast

def next (place : Location) (part : Text) : Location :=
  if part.isEmpty || part == ['.'] then place
  else if part == ['.', '.'] then above place
  else place ++ [part]

def follow (tree : Tree) : Location → List Text → Except Reason Location
  | place, [] => .ok place
  | place, part :: rest =>
    match tree.node? place with
    | none => .error .missing
    | some (.file _) => .error .notDirectory
    | some .directory =>
      if Text.byteLength part ≤ 255 then tree.follow (next place part) rest
      else .error .nameTooLong

def origin (path : Text) : Location := if path.head? == some '/' then [[]] else []

def placeOf (path : Text) : Location := (parts path).foldl next (origin path)

/-- Why no place has a path: an empty one and one with a null character name nothing, and a path has
less than 4096 bytes. -/
def pathError? (path : Text) : Option Reason :=
  if path.isEmpty then some .missing
  else if path.contains '\x00' then some .nul
  else if Text.byteLength path < 4096 then none
  else some .nameTooLong

def locate (tree : Tree) (path : Text) : Except Reason Location :=
  match pathError? path with
  | some reason => .error reason
  | none => tree.follow (origin path) (parts path)

def find? (tree : Tree) (path : Text) : Option Node :=
  match tree.locate path with
  | .ok place => tree.node? place
  | .error _ => none

def read (tree : Tree) (path : Text) : Except Error Text :=
  match tree.locate path with
  | .error reason => .error ⟨reason, path⟩
  | .ok place =>
    match tree.node? place with
    | none => .error ⟨.missing, path⟩
    | some .directory => .error ⟨.isDirectory, path⟩
    | some (.file content) => .ok content

def trimSlashes (path : Text) : Text :=
  let trimmed := (path.reverse.dropWhile (· == '/')).reverse
  if trimmed.isEmpty then path else trimmed

/-- Where a file can be written: in the place of no directory. A path with a slash at its end means
a directory, whatever its last name is. -/
def target (tree : Tree) (path : Text) : Except Reason Location :=
  match pathError? path with
  | some reason => .error reason
  | none =>
    if path.getLast? == some '/' then do
      let _ ← tree.follow (origin path) ((parts (trimSlashes path)).dropLast ++ [['.']])
      .error .isDirectory
    else do
      let place ← tree.locate path
      if tree.isDirectory place then .error .isDirectory else .ok place

def write (tree : Tree) (path : Text) (content : Text) : Except Error Tree :=
  match tree.target path with
  | .ok place => .ok (if place = sink then tree else tree.put place (.file content))
  | .error reason => .error ⟨reason, path⟩

def names (tree : Tree) (place : Location) : List Text :=
  tree.filterMap fun entry ↦
    if entry.1.dropLast == place then entry.1.getLast? else none

def pathOf (place : Location) : Text := ['/'].intercalate place

def changes (before after : Tree) : List (Text × Text) :=
  after.filterMap fun entry ↦
    match entry.2 with
    | .directory => none
    | .file content =>
      if before.node? entry.1 == some (.file content) then none
      else some (pathOf entry.1, content)

end Tree

def Tree.ofList (entries : List (Text × Node)) : Tree :=
  entries.foldl (fun tree entry ↦ tree.grow (Tree.placeOf entry.1) entry.2) []

end BookIndex.Files
