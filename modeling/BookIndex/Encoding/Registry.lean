import BookIndex.Encoding.Codec

namespace BookIndex.Codec

def failing (e : Fault) : Codec := ⟨fun _ ↦ .error e⟩

def notText (name : String) : Codec :=
  failing (.unknown ('\'' :: name.toList ++
    "' is not a text encoding; use codecs.encode() to handle arbitrary codecs".toList))

def isNameChar (c : Char) : Bool :=
  ('a' ≤ c && c ≤ 'z') || ('A' ≤ c && c ≤ 'Z') || ('0' ≤ c && c ≤ '9') || c == '.'

def lowerAscii (c : Char) : Char :=
  if 'A' ≤ c && c ≤ 'Z' then Char.ofNat (c.toNat + 32) else c

def normalizeFrom (started gap : Bool) : Text → Text
  | [] => []
  | c :: s =>
    if isNameChar c then
      let rest := lowerAscii c :: normalizeFrom true false s
      if started && gap then '_' :: rest else rest
    else normalizeFrom started true s

/-- Names are compared without case, every run of characters that are no ASCII letters, digits or
full stops as one low line. -/
def normalize (name : Text) : Text := normalizeFrom false false name

structure Names where
  codec : Codec
  own : String
  others : List String

def all : List Names :=
  [⟨charset .utf8, "utf_8", ["u8", "utf", "utf8", "utf8_ucs2", "utf8_ucs4", "cp65001"]⟩,
    ⟨charset .utf16, "utf_16", ["u16", "utf16"]⟩,
    ⟨charset .ascii, "ascii",
      ["646", "ansi_x3.4_1968", "ansi_x3_4_1968", "ansi_x3.4_1986", "cp367", "csascii", "ibm367",
        "iso646_us", "iso_646.irv_1991", "iso_ir_6", "us", "us_ascii"]⟩,
    ⟨charset .latin1, "latin_1",
      ["8859", "cp819", "csisolatin1", "ibm819", "iso8859", "iso8859_1", "iso_8859_1",
        "iso_8859_1_1987", "iso_ir_100", "l1", "latin", "latin1"]⟩,
    ⟨charset .latin2, "iso8859_2",
      ["csisolatin2", "iso_8859_2", "iso_8859_2_1987", "iso_ir_101", "l2", "latin2"]⟩,
    ⟨charset .latin9, "iso8859_15", ["iso_8859_15", "l9", "latin9"]⟩,
    ⟨charset .windows1252, "cp1252", ["1252", "windows_1252"]⟩,
    ⟨notText "rot-13", "rot_13", ["rot13"]⟩,
    ⟨notText "hex", "hex_codec", ["hex"]⟩,
    ⟨notText "base64", "base64_codec", ["base64", "base_64"]⟩,
    ⟨notText "bz2", "bz2_codec", ["bz2"]⟩,
    ⟨notText "zlib", "zlib_codec", ["zip", "zlib"]⟩,
    ⟨notText "uu", "uu_codec", ["uu"]⟩,
    ⟨notText "quopri", "quopri_codec", ["quopri", "quoted_printable", "quotedprintable"]⟩,
    ⟨failing (.unfit "undefined encoding".toList), "undefined", []⟩]

/-- Whether a name in its normal form is one of an encoding. In the other names a full stop may
stand for a low line. -/
def Names.has (names : Names) (name : Text) : Bool :=
  names.own.toList == name || names.others.any fun other ↦
    other.toList == name || other.toList == Text.replace ['.'] ['_'] name

/-- The registry that the program itself runs with. It knows some of the encodings that there are, by
their names. -/
def ofName (name : Text) : Except Fault Codec :=
  if name.contains '\x00' then .error (.unfit "embedded null character".toList)
  else match all.find? (·.has (normalize name)) with
    | some names => .ok names.codec
    | none => .error (.unknown ("unknown encoding: ".toList ++ name))

end BookIndex.Codec
