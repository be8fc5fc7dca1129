import BookIndex.Text.Lower
import BookIndex.Value.Basic

namespace BookIndex

structure Settings where
  escapeChar : Text
  useIndices : Bool
  encoding : Text
  separator : Text
  heading : Text
  headingTag : Text
  cssClass : Text
  dryRun : Bool
  deriving DecidableEq, Repr

namespace Settings

def default : Settings where
  escapeChar := ['"']
  useIndices := false
  encoding := "utf-8".toList
  separator := " ! ".toList
  heading := "Index".toList
  headingTag := "h2".toList
  cssClass := "tocentry".toList
  dryRun := false

inductive Field where
  | escapeChar | useIndices | encoding | separator | heading | headingTag | cssClass | dryRun
  deriving DecidableEq, Repr

namespace Field

def all : List Field :=
  [escapeChar, useIndices, encoding, separator, heading, headingTag, cssClass, dryRun]

def name : Field → Text
  | escapeChar => "escape_char".toList
  | useIndices => "use_indices".toList
  | encoding => "encoding".toList
  | separator => "separator".toList
  | heading => "heading".toList
  | headingTag => "heading_tag".toList
  | cssClass => "css_class".toList
  | dryRun => "dry_run".toList

def ofName? (name : Text) : Option Field := all.find? (·.name == name)

end Field

def get (s : Settings) : Field → Value
  | .escapeChar => .text s.escapeChar
  | .useIndices => .bool s.useIndices
  | .encoding => .text s.encoding
  | .separator => .text s.separator
  | .heading => .text s.heading
  | .headingTag => .text s.headingTag
  | .cssClass => .text s.cssClass
  | .dryRun => .bool s.dryRun

/-- A value as a yes or no; of the texts, four mean yes. -/
def toBool : Value → Bool
  | .text s => ["1", "true", "yes", "on"].any (·.toList == Text.lower (Text.trim s))
  | v => v.truthy

def setText (s : Settings) (text : Text) : Field → Settings
  | .escapeChar => { s with escapeChar := text }
  | .encoding => { s with encoding := text }
  | .separator => { s with separator := text }
  | .heading => { s with heading := text }
  | .headingTag => { s with headingTag := text }
  | .cssClass => { s with cssClass := text }
  | .useIndices | .dryRun => s

def set (s : Settings) (f : Field) (v : Value) : Except Fault Settings :=
  match f with
  | .useIndices => .ok { s with useIndices := toBool v }
  | .dryRun => .ok { s with dryRun := toBool v }
  | f => if v.isNull then .ok s else v.toText.map fun text ↦ s.setText text f

def Field.ofKey? (key : Value) : Option Field := key.asText?.bind Field.ofName?

def setNamed (s : Settings) (field : Value × Value) : Except Fault Settings :=
  match Field.ofKey? field.1 with
  | some f => s.set f field.2
  | none => .ok s

def ofFields (fields : Value.Fields) : Except Fault Settings := fields.foldlM setNamed default

/-- The unknown fields before the first one that cannot be set. -/
def unknownFields (fields : Value.Fields) : List Value :=
  ((fields.takeWhile fun field ↦ (default.setNamed field).isOk).map Prod.fst).filter fun key ↦
    (Field.ofKey? key).isNone

def unknownWarning (name : Text) : Text := "Ignoring unknown setting '".toList ++ name ++ ['\'']

structure OverrideError where
  name : Text
  deriving DecidableEq, Repr

def OverrideError.message (e : OverrideError) : Text :=
  "Settings.__init__() got an unexpected keyword argument '".toList ++ e.name ++ ['\'']

/-- The values of all fields after an override, which takes values as they are. Changes without a
value are none; of the others, the first one with an unknown name is an error. -/
def override (s : Settings) (changes : List (Text × Value)) :
    Except OverrideError (List (Field × Value)) :=
  let changes := changes.filter (!·.2.isNull)
  match changes.find? fun change ↦ (Field.ofName? change.1).isNone with
  | some change => .error ⟨change.1⟩
  | none => .ok (Field.all.map fun f ↦ (f, (changes.lookup f.name).getD (s.get f)))

theorem ofName?_name (f : Field) : Field.ofName? f.name = some f := by
  cases f <;> decide

end Settings
end BookIndex
