import BookIndex.Markup.Command
import BookIndex.Markup.Heading
import BookIndex.Markup.Separator

namespace BookIndex.Markup

def isLevelSeparator (c : Char) : Bool := c == '!'

def isSortSeparator (c : Char) : Bool := c == '@'

def isCommandSeparator (c : Char) : Bool := c == '|'

def splitCommand (esc : Text) (raw : Text) : Text × Option Text :=
  match cut? isCommandSeparator esc raw with
  | some (path, command) => (path, some command)
  | none => (raw, none)

def splitMarkup (esc : Text) (raw : Text) : List Text × Option Text :=
  let parts := splitCommand esc raw
  (split isLevelSeparator esc parts.1, parts.2)

structure Entry where
  levels : List Text
  commandText : Option Text
  command : Command
  sortKey : Option Text
  position : Option Text
  deriving DecidableEq, Repr

namespace Entry

def heading (e : Entry) : Heading := .ofLevels e.levels

def termPath (e : Entry) : Text := ['!'].intercalate e.levels

def ofMarkup (esc : Text) (raw : Text) (position : Option Text) : Entry :=
  let parts := splitMarkup esc raw
  ⟨parts.1, parts.2, .ofText? parts.2, none, position⟩

end Entry
end BookIndex.Markup
