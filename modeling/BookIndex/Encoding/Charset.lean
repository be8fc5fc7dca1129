import BookIndex.Text.Accent

namespace BookIndex

structure Charset where
  canEncode : Char → Bool

namespace Charset

def ofRanges (ranges : Text.Ranges) : Charset := ⟨ranges.has⟩

def utf8 : Charset := .ofRanges [(0, 0x10FFFF)]

def utf16 : Charset := .ofRanges [(0, 0x10FFFF)]

def ascii : Charset := .ofRanges [(0, 0x7F)]

def latin1 : Charset := .ofRanges [(0, 0xFF)]

def latin2 : Charset :=
  .ofRanges
    [(0x0, 0xA0), (0xA4, 0xA4), (0xA7, 0xA8), (0xAD, 0xAD), (0xB0, 0xB0), (0xB4, 0xB4),
      (0xB8, 0xB8), (0xC1, 0xC2), (0xC4, 0xC4), (0xC7, 0xC7), (0xC9, 0xC9), (0xCB, 0xCB),
      (0xCD, 0xCE), (0xD3, 0xD4), (0xD6, 0xD7), (0xDA, 0xDA), (0xDC, 0xDD), (0xDF, 0xDF),
      (0xE1, 0xE2), (0xE4, 0xE4), (0xE7, 0xE7), (0xE9, 0xE9), (0xEB, 0xEB), (0xED, 0xEE),
      (0xF3, 0xF4), (0xF6, 0xF7), (0xFA, 0xFA), (0xFC, 0xFD), (0x102, 0x107), (0x10C, 0x111),
      (0x118, 0x11B), (0x139, 0x13A), (0x13D, 0x13E), (0x141, 0x144), (0x147, 0x148),
      (0x150, 0x151), (0x154, 0x155), (0x158, 0x15B), (0x15E, 0x165), (0x16E, 0x171),
      (0x179, 0x17E), (0x2C7, 0x2C7), (0x2D8, 0x2D9), (0x2DB, 0x2DB), (0x2DD, 0x2DD)]

def latin9 : Charset :=
  .ofRanges
    [(0x0, 0xA3), (0xA5, 0xA5), (0xA7, 0xA7), (0xA9, 0xB3), (0xB5, 0xB7), (0xB9, 0xBB),
      (0xBF, 0xFF), (0x152, 0x153), (0x160, 0x161), (0x178, 0x178), (0x17D, 0x17E),
      (0x20AC, 0x20AC)]

def windows1252 : Charset :=
  .ofRanges
    [(0x0, 0x7F), (0xA0, 0xFF), (0x152, 0x153), (0x160, 0x161), (0x178, 0x178), (0x17D, 0x17E),
      (0x192, 0x192), (0x2C6, 0x2C6), (0x2DC, 0x2DC), (0x2013, 0x2014), (0x2018, 0x201A),
      (0x201C, 0x201E), (0x2020, 0x2022), (0x2026, 0x2026), (0x2030, 0x2030), (0x2039, 0x203A),
      (0x20AC, 0x20AC), (0x2122, 0x2122)]

def named : List Charset := [utf8, utf16, ascii, latin1, latin2, latin9, windows1252]

def HoldsAscii (s : Charset) : Prop := ∀ c : Char, c.toNat < 128 → s.canEncode c = true

/-- Letters and punctuation with a macro of their own. -/
def specialMacros : List (Char × Text) :=
  [('ß', "\\ss\x7b\x7d".toList), ('æ', "\\ae\x7b\x7d".toList), ('Æ', "\\AE\x7b\x7d".toList),
    ('œ', "\\oe\x7b\x7d".toList), ('Œ', "\\OE\x7b\x7d".toList), ('ø', "\\o\x7b\x7d".toList),
    ('Ø', "\\O\x7b\x7d".toList), ('ł', "\\l\x7b\x7d".toList), ('Ł', "\\L\x7b\x7d".toList),
    ('ı', "\\i\x7b\x7d".toList), ('\u2013', "--".toList), ('\u2014', "---".toList),
    ('\u2018', "`".toList), ('\u2019', "'".toList), ('\u201c', "``".toList),
    ('\u201d', "''".toList)]

def accentMacro : Text.Accent → Char
  | .grave => '`'
  | .acute => '\''
  | .circumflex => '^'
  | .tilde => '~'
  | .macron => '='
  | .breve => 'u'
  | .dotAbove => '.'
  | .diaeresis => '"'
  | .ring => 'r'
  | .doubleAcute => 'H'
  | .caron => 'v'
  | .cedilla => 'c'
  | .ogonek => 'k'

def macro? (s : Charset) (c : Char) : Option Text :=
  match specialMacros.lookup c with
  | some m => some m
  | none =>
    match Text.decompose? c with
    | some (base, accent) =>
      if s.canEncode base then some ['\\', accentMacro accent, '{', base, '}'] else none
    | none => none

def isLost (s : Charset) (c : Char) : Bool := !s.canEncode c && (s.macro? c).isNone

/-- How one character is written; a preview keeps the characters that are lost. -/
def writeChar (s : Charset) (preview : Bool) (c : Char) : Text :=
  if s.canEncode c then [c]
  else match s.macro? c with
    | some m => m
    | none => if preview then [c] else []

def write (s : Charset) (preview : Bool) (t : Text) : Text × Text :=
  (t.flatMap (s.writeChar preview), t.filter s.isLost)

theorem holdsAscii_of_mem_named {s : Charset} (hs : s ∈ named) : s.HoldsAscii := by
  intro c hc
  simp only [named, List.mem_cons, List.not_mem_nil, or_false] at hs
  rcases hs with rfl | rfl | rfl | rfl | rfl | rfl | rfl <;>
    simp [ofRanges, Text.Ranges.has_cons, utf8, utf16, ascii, latin1, latin2, latin9, windows1252] <;>
    omega

@[simp] theorem write_nil (s : Charset) (preview : Bool) : s.write preview [] = ([], []) := rfl

end Charset
end BookIndex
