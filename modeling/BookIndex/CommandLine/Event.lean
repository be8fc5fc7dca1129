import BookIndex.Diagnostic
import BookIndex.Settings
import BookIndex.Text.Quoted

namespace BookIndex.CommandLine

inductive Event where
  | diagnostic (d : Diagnostic)
  | unknownSetting (name : Text)
  /-- The plain text of an entry shows no trace of its command. -/
  | plainLacksCommand (markup : Text)
  deriving DecidableEq, Repr

namespace Event

def isDetail : Event → Bool
  | plainLacksCommand _ => true
  | _ => false

def message : Event → Text
  | diagnostic d => d.kind.name ++ ": ".toList ++ d.message
  | unknownSetting name => Settings.unknownWarning name
  | plainLacksCommand markup =>
    "The '|' separator was not found in the plain text of ".toList ++ Text.quoted markup

def origin : Event → Text
  | diagnostic _ => "WARNING index_markup.diagnostics".toList
  | unknownSetting _ => "WARNING index_markup.config".toList
  | plainLacksCommand _ => "DEBUG index_markup.latex".toList

def line (e : Event) : Text := e.origin ++ ": ".toList ++ e.message ++ ['\n']

def write (verbose : Bool) (events : List Event) : Text :=
  (events.filter fun e ↦ verbose || !e.isDetail).flatMap line

end Event
end BookIndex.CommandLine
