import BookIndex.Text.Digit

namespace BookIndex.CommandLine

inductive OptionKind where
  | flag | value | help
  deriving DecidableEq, Repr

structure OptionSpec where
  key : String
  names : List String
  kind : OptionKind
  deriving Repr

inductive Token where
  | word (s : Text)
  /-- Two hyphens, behind which there are only words. -/
  | dashes
  /-- An option with the name it goes by and the value behind that. -/
  | option (spec : OptionSpec) (name : Text) (value : Option Text)
  | unknown
  deriving Repr

inductive Stop where
  | usage | help
  deriving DecidableEq, Repr

def named (specs : List OptionSpec) : List (Text × OptionSpec) :=
  specs.flatMap fun spec ↦ spec.names.map fun name ↦ (name.toList, spec)

def candidates (specs : List OptionSpec) (s : Text) : List (OptionSpec × Text × Option Text) :=
  match s with
  | '-' :: '-' :: _ =>
    let (start, value) := match Text.cut? ['='] s with
      | some (start, value) => (start, some value)
      | none => (s, none)
    (named specs).filterMap fun (name, spec) ↦
      if start.isPrefixOf name then some (spec, name, value) else none
  | _ =>
    (named specs).filterMap fun (name, spec) ↦
      if name == s.take 2 then some (spec, name, some (s.drop 2))
      else if s.isPrefixOf name then some (spec, name, none)
      else none

def isNegativeNumber : Text → Bool
  | '-' :: s =>
    let s := if s.getLast? = some '\n' then s.dropLast else s
    let rest := s.dropWhile Text.isDigit
    if rest.isEmpty then !s.isEmpty
    else rest.head? == some '.' && !rest.tail.isEmpty && rest.tail.all Text.isDigit
  | _ => false

def classify (specs : List OptionSpec) (s : Text) : Except Stop Token :=
  if s.head? != some '-' then .ok (.word s)
  else match (named specs).lookup s with
    | some spec => .ok (.option spec s none)
    | none =>
      if s.length = 1 then .ok (.word s)
      else
        let exact := (Text.cut? ['='] s).bind fun (name, value) ↦
          ((named specs).lookup name).map fun spec ↦ Token.option spec name (some value)
        match exact with
        | some token => .ok token
        | none =>
          match candidates specs s with
          | [] => .ok (if isNegativeNumber s || s.contains ' ' then .word s else .unknown)
          | [(spec, name, value)] => .ok (.option spec name value)
          | _ => .error .usage

def tokenize (specs : List OptionSpec) : List Text → Except Stop (List Token)
  | [] => .ok []
  | s :: rest =>
    if s == ['-', '-'] then .ok (.dashes :: rest.map .word)
    else do
      let token ← classify specs s
      let tokens ← tokenize specs rest
      return token :: tokens

/-- The options that were given, with their values if they have any, the last one first. -/
abbrev Given := List (String × Option Text)

def ownValue? (value : Text) : Option Text := if value == ['-', '-'] then none else some value

def cluster (specs : List OptionSpec) (given : Given) : Text → Except Stop Given
  | [] => .ok given
  | c :: rest =>
    match (named specs).lookup ['-', c] with
    | none => .error .usage
    | some spec =>
      match spec.kind with
      | .flag => cluster specs ((spec.key, none) :: given) rest
      | .help => if rest.isEmpty then .error .help else cluster specs given rest
      | .value =>
        if rest.isEmpty then .error .usage else .ok ((spec.key, ownValue? rest) :: given)

def takeOption (specs : List OptionSpec) (given : Given) (spec : OptionSpec) (name : Text)
    (value : Option Text) (following : List Token) : Except Stop (Given × Bool) :=
  match spec.kind, value with
  | .value, some value => .ok ((spec.key, ownValue? value) :: given, false)
  | .value, none =>
    match following with
    | .word w :: _ => .ok ((spec.key, some w) :: given, true)
    | _ => .error .usage
  | .flag, none => .ok ((spec.key, none) :: given, false)
  | .help, none => .error .help
  | kind, some value =>
    if name.length = 2 && !value.isEmpty then do
      let given ← cluster specs (if kind = .flag then (spec.key, none) :: given else given) value
      if kind = .help then .error .help else return (given, false)
    else .error .usage

structure Parsed where
  given : Given
  operand : Text

/-- Reads the tokens that are left. An operand may stand between two hyphens; anything else that
belongs nowhere is an error, but only if no help is asked for later. -/
def readTokens (specs : List OptionSpec) (given : Given) (operand : Option Text) (extra : Bool)
    (skipped : Bool) : List Token → Except Stop Parsed
  | [] =>
    match operand with
    | some operand => if extra then .error .usage else .ok ⟨given, operand⟩
    | none => .error .usage
  | token :: rest =>
    if skipped then readTokens specs given operand extra false rest
    else match token with
      | .word w =>
        if operand.isNone then
          let closed := match rest with
            | .dashes :: _ => true
            | _ => false
          readTokens specs given (some w) extra closed rest
        else readTokens specs given operand true false rest
      | .dashes =>
        readTokens specs given operand (extra || operand.isSome || rest.isEmpty) false rest
      | .unknown => readTokens specs given operand true false rest
      | .option spec name value =>
        match takeOption specs given spec name value rest with
        | .error stop => .error stop
        | .ok (given, usesNext) => readTokens specs given operand extra usesNext rest

def parse (specs : List OptionSpec) (args : List Text) : Except Stop Parsed := do
  readTokens specs [] none false false (← tokenize specs args)

structure Leading where
  given : Given
  extra : Bool
  command : Text
  args : List Text

def readLeading (specs : List OptionSpec) (given : Given) (extra : Bool) :
    List Token → List Text → Except Stop Leading
  | .word w :: _, _ :: args => .ok ⟨given, extra, w, args⟩
  | .unknown :: rest, _ :: args => readLeading specs given true rest args
  | .option spec name value :: rest, _ :: args =>
    match takeOption specs given spec name value rest with
    | .error stop => .error stop
    | .ok (given, _) => readLeading specs given extra rest args
  | _, _ => .error .usage

def parseLeading (specs : List OptionSpec) (args : List Text) : Except Stop Leading := do
  readLeading specs [] false (← tokenize specs args) args

namespace Parsed

def given? (p : Parsed) (key : String) : Option (Option Text) := p.given.lookup key

def has (p : Parsed) (key : String) : Bool := (p.given? key).isSome

end Parsed
end BookIndex.CommandLine
