import BookIndex.Encoding.Charset
import BookIndex.Fault

namespace BookIndex

/-- An encoding, by the characters that it can write. It may fail on a character. -/
structure Codec where
  canEncode : Char → Except Fault Bool

namespace Codec

/-- The encodings of texts, which tell of every character whether they can write it. -/
def charset (s : Charset) : Codec := ⟨fun c ↦ .ok (s.canEncode c)⟩

def macro? (codec : Codec) (c : Char) : Except Fault (Option Text) :=
  match Charset.specialMacros.lookup c with
  | some m => .ok (some m)
  | none =>
    match Text.decompose? c with
    | some (base, accent) => do
      if ← codec.canEncode base then
        return some ['\\', Charset.accentMacro accent, '{', base, '}']
      else return none
    | none => .ok none

def writeChar (codec : Codec) (preview : Bool) (c : Char) : Except Fault (Text × Text) := do
  if ← codec.canEncode c then return ([c], [])
  else
    match ← codec.macro? c with
    | some m => return (m, [])
    | none => return (if preview then [c] else [], [c])

/-- Writes a text up to the first character that the encoding fails on. -/
def write (codec : Codec) (preview : Bool) : Text → Except Fault (Text × Text)
  | [] => .ok ([], [])
  | c :: t => do
    let first ← codec.writeChar preview c
    let rest ← codec.write preview t
    return (first.1 ++ rest.1, first.2 ++ rest.2)

end Codec

/-- How sort keys are made fit for the output: the text as far as it can be written, and the
characters that are lost. -/
abbrev Validator := (preview : Bool) → Text → Except Fault (Text × Text)

def Codec.validator (codec : Codec) : Validator := codec.write

def Validator.const (answer : Text × Text) : Validator := fun _ _ ↦ .ok answer

namespace Codec

theorem macro?_charset (s : Charset) (c : Char) : (charset s).macro? c = .ok (s.macro? c) := by
  unfold macro? Charset.macro?
  cases Charset.specialMacros.lookup c with
  | some m => rfl
  | none =>
    cases Text.decompose? c with
    | none => rfl
    | some p =>
      cases hbase : s.canEncode p.1 <;>
        simp [charset, hbase, bind, Except.bind, pure, Except.pure]

theorem writeChar_charset (s : Charset) (preview : Bool) (c : Char) :
    (charset s).writeChar preview c =
      .ok (s.writeChar preview c, if s.isLost c then [c] else []) := by
  unfold writeChar Charset.writeChar Charset.isLost
  rw [macro?_charset]
  cases hc : s.canEncode c with
  | true => simp [charset, hc, bind, Except.bind, pure, Except.pure]
  | false => cases s.macro? c <;> simp [charset, hc, bind, Except.bind, pure, Except.pure]

theorem validator_charset (s : Charset) (preview : Bool) (t : Text) :
    (charset s).validator preview t = .ok (s.write preview t) := by
  change (charset s).write preview t = _
  induction t with
  | nil => rfl
  | cons c t ih =>
    rw [write, writeChar_charset, ih, Charset.write, Charset.write, List.flatMap_cons,
      List.filter_cons]
    cases s.isLost c <;> rfl

end Codec
end BookIndex
