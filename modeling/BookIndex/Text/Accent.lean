import BookIndex.Text.Basic

namespace BookIndex.Text

inductive Accent where
  | grave | acute | circumflex | tilde | macron | breve | dotAbove | diaeresis | ring
  | doubleAcute | caron | cedilla | ogonek
  deriving DecidableEq, Repr

namespace Accent

def all : List Accent :=
  [.grave, .acute, .circumflex, .tilde, .macron, .breve, .dotAbove,
    .diaeresis, .ring, .doubleAcute, .caron, .cedilla, .ogonek]

def table : Accent → List (Nat × Nat)
  | .grave =>
    [(0xC0, 0x41), (0xC8, 0x45), (0xCC, 0x49), (0xD2, 0x4F), (0xD9, 0x55), (0xE0, 0x61),
      (0xE8, 0x65), (0xEC, 0x69), (0xF2, 0x6F), (0xF9, 0x75), (0x1F8, 0x4E), (0x1F9, 0x6E),
      (0x400, 0x415), (0x40D, 0x418), (0x450, 0x435), (0x45D, 0x438), (0x1E80, 0x57),
      (0x1E81, 0x77), (0x1EF2, 0x59), (0x1EF3, 0x79), (0x1F70, 0x3B1), (0x1F72, 0x3B5),
      (0x1F74, 0x3B7), (0x1F76, 0x3B9), (0x1F78, 0x3BF), (0x1F7A, 0x3C5), (0x1F7C, 0x3C9),
      (0x1FBA, 0x391), (0x1FC8, 0x395), (0x1FCA, 0x397), (0x1FCD, 0x1FBF), (0x1FDA, 0x399),
      (0x1FDD, 0x1FFE), (0x1FEA, 0x3A5), (0x1FED, 0xA8), (0x1FF8, 0x39F), (0x1FFA, 0x3A9)]
  | .acute =>
    [(0xC1, 0x41), (0xC9, 0x45), (0xCD, 0x49), (0xD3, 0x4F), (0xDA, 0x55), (0xDD, 0x59),
      (0xE1, 0x61), (0xE9, 0x65), (0xED, 0x69), (0xF3, 0x6F), (0xFA, 0x75), (0xFD, 0x79),
      (0x106, 0x43), (0x107, 0x63), (0x139, 0x4C), (0x13A, 0x6C), (0x143, 0x4E), (0x144, 0x6E),
      (0x154, 0x52), (0x155, 0x72), (0x15A, 0x53), (0x15B, 0x73), (0x179, 0x5A), (0x17A, 0x7A),
      (0x1F4, 0x47), (0x1F5, 0x67), (0x1FC, 0xC6), (0x1FD, 0xE6), (0x1FE, 0xD8), (0x1FF, 0xF8),
      (0x344, 0x308), (0x385, 0xA8), (0x386, 0x391), (0x388, 0x395), (0x389, 0x397), (0x38A, 0x399),
      (0x38C, 0x39F), (0x38E, 0x3A5), (0x38F, 0x3A9), (0x3AC, 0x3B1), (0x3AD, 0x3B5),
      (0x3AE, 0x3B7), (0x3AF, 0x3B9), (0x3CC, 0x3BF), (0x3CD, 0x3C5), (0x3CE, 0x3C9),
      (0x3D3, 0x3D2), (0x403, 0x413), (0x40C, 0x41A), (0x453, 0x433), (0x45C, 0x43A),
      (0x1E30, 0x4B), (0x1E31, 0x6B), (0x1E3E, 0x4D), (0x1E3F, 0x6D), (0x1E54, 0x50),
      (0x1E55, 0x70), (0x1E82, 0x57), (0x1E83, 0x77), (0x1F71, 0x3B1), (0x1F73, 0x3B5),
      (0x1F75, 0x3B7), (0x1F77, 0x3B9), (0x1F79, 0x3BF), (0x1F7B, 0x3C5), (0x1F7D, 0x3C9),
      (0x1FBB, 0x391), (0x1FC9, 0x395), (0x1FCB, 0x397), (0x1FCE, 0x1FBF), (0x1FDB, 0x399),
      (0x1FDE, 0x1FFE), (0x1FEB, 0x3A5), (0x1FEE, 0xA8), (0x1FF9, 0x39F), (0x1FFB, 0x3A9)]
  | .circumflex =>
    [(0xC2, 0x41), (0xCA, 0x45), (0xCE, 0x49), (0xD4, 0x4F), (0xDB, 0x55), (0xE2, 0x61),
      (0xEA, 0x65), (0xEE, 0x69), (0xF4, 0x6F), (0xFB, 0x75), (0x108, 0x43), (0x109, 0x63),
      (0x11C, 0x47), (0x11D, 0x67), (0x124, 0x48), (0x125, 0x68), (0x134, 0x4A), (0x135, 0x6A),
      (0x15C, 0x53), (0x15D, 0x73), (0x174, 0x57), (0x175, 0x77), (0x176, 0x59), (0x177, 0x79),
      (0x1E90, 0x5A), (0x1E91, 0x7A)]
  | .tilde =>
    [(0xC3, 0x41), (0xD1, 0x4E), (0xD5, 0x4F), (0xE3, 0x61), (0xF1, 0x6E), (0xF5, 0x6F),
      (0x128, 0x49), (0x129, 0x69), (0x168, 0x55), (0x169, 0x75), (0x1E7C, 0x56), (0x1E7D, 0x76),
      (0x1EBC, 0x45), (0x1EBD, 0x65), (0x1EF8, 0x59), (0x1EF9, 0x79)]
  | .macron =>
    [(0x100, 0x41), (0x101, 0x61), (0x112, 0x45), (0x113, 0x65), (0x12A, 0x49), (0x12B, 0x69),
      (0x14C, 0x4F), (0x14D, 0x6F), (0x16A, 0x55), (0x16B, 0x75), (0x1E2, 0xC6), (0x1E3, 0xE6),
      (0x232, 0x59), (0x233, 0x79), (0x4E2, 0x418), (0x4E3, 0x438), (0x4EE, 0x423), (0x4EF, 0x443),
      (0x1E20, 0x47), (0x1E21, 0x67), (0x1FB1, 0x3B1), (0x1FB9, 0x391), (0x1FD1, 0x3B9),
      (0x1FD9, 0x399), (0x1FE1, 0x3C5), (0x1FE9, 0x3A5)]
  | .breve =>
    [(0x102, 0x41), (0x103, 0x61), (0x114, 0x45), (0x115, 0x65), (0x11E, 0x47), (0x11F, 0x67),
      (0x12C, 0x49), (0x12D, 0x69), (0x14E, 0x4F), (0x14F, 0x6F), (0x16C, 0x55), (0x16D, 0x75),
      (0x40E, 0x423), (0x419, 0x418), (0x439, 0x438), (0x45E, 0x443), (0x4C1, 0x416),
      (0x4C2, 0x436), (0x4D0, 0x410), (0x4D1, 0x430), (0x4D6, 0x415), (0x4D7, 0x435),
      (0x1FB0, 0x3B1), (0x1FB8, 0x391), (0x1FD0, 0x3B9), (0x1FD8, 0x399), (0x1FE0, 0x3C5),
      (0x1FE8, 0x3A5)]
  | .dotAbove =>
    [(0x10A, 0x43), (0x10B, 0x63), (0x116, 0x45), (0x117, 0x65), (0x120, 0x47), (0x121, 0x67),
      (0x130, 0x49), (0x17B, 0x5A), (0x17C, 0x7A), (0x226, 0x41), (0x227, 0x61), (0x22E, 0x4F),
      (0x22F, 0x6F), (0x1E02, 0x42), (0x1E03, 0x62), (0x1E0A, 0x44), (0x1E0B, 0x64), (0x1E1E, 0x46),
      (0x1E1F, 0x66), (0x1E22, 0x48), (0x1E23, 0x68), (0x1E40, 0x4D), (0x1E41, 0x6D),
      (0x1E44, 0x4E), (0x1E45, 0x6E), (0x1E56, 0x50), (0x1E57, 0x70), (0x1E58, 0x52),
      (0x1E59, 0x72), (0x1E60, 0x53), (0x1E61, 0x73), (0x1E6A, 0x54), (0x1E6B, 0x74),
      (0x1E86, 0x57), (0x1E87, 0x77), (0x1E8A, 0x58), (0x1E8B, 0x78), (0x1E8E, 0x59),
      (0x1E8F, 0x79), (0x1E9B, 0x17F)]
  | .diaeresis =>
    [(0xC4, 0x41), (0xCB, 0x45), (0xCF, 0x49), (0xD6, 0x4F), (0xDC, 0x55), (0xE4, 0x61),
      (0xEB, 0x65), (0xEF, 0x69), (0xF6, 0x6F), (0xFC, 0x75), (0xFF, 0x79), (0x178, 0x59),
      (0x3AA, 0x399), (0x3AB, 0x3A5), (0x3CA, 0x3B9), (0x3CB, 0x3C5), (0x3D4, 0x3D2),
      (0x401, 0x415), (0x407, 0x406), (0x451, 0x435), (0x457, 0x456), (0x4D2, 0x410),
      (0x4D3, 0x430), (0x4DA, 0x4D8), (0x4DB, 0x4D9), (0x4DC, 0x416), (0x4DD, 0x436),
      (0x4DE, 0x417), (0x4DF, 0x437), (0x4E4, 0x418), (0x4E5, 0x438), (0x4E6, 0x41E),
      (0x4E7, 0x43E), (0x4EA, 0x4E8), (0x4EB, 0x4E9), (0x4EC, 0x42D), (0x4ED, 0x44D),
      (0x4F0, 0x423), (0x4F1, 0x443), (0x4F4, 0x427), (0x4F5, 0x447), (0x4F8, 0x42B),
      (0x4F9, 0x44B), (0x1E26, 0x48), (0x1E27, 0x68), (0x1E84, 0x57), (0x1E85, 0x77),
      (0x1E8C, 0x58), (0x1E8D, 0x78), (0x1E97, 0x74)]
  | .ring =>
    [(0xC5, 0x41), (0xE5, 0x61), (0x16E, 0x55), (0x16F, 0x75), (0x1E98, 0x77), (0x1E99, 0x79),
      (0x212B, 0x41)]
  | .doubleAcute =>
    [(0x150, 0x4F), (0x151, 0x6F), (0x170, 0x55), (0x171, 0x75), (0x4F2, 0x423), (0x4F3, 0x443)]
  | .caron =>
    [(0x10C, 0x43), (0x10D, 0x63), (0x10E, 0x44), (0x10F, 0x64), (0x11A, 0x45), (0x11B, 0x65),
      (0x13D, 0x4C), (0x13E, 0x6C), (0x147, 0x4E), (0x148, 0x6E), (0x158, 0x52), (0x159, 0x72),
      (0x160, 0x53), (0x161, 0x73), (0x164, 0x54), (0x165, 0x74), (0x17D, 0x5A), (0x17E, 0x7A),
      (0x1CD, 0x41), (0x1CE, 0x61), (0x1CF, 0x49), (0x1D0, 0x69), (0x1D1, 0x4F), (0x1D2, 0x6F),
      (0x1D3, 0x55), (0x1D4, 0x75), (0x1E6, 0x47), (0x1E7, 0x67), (0x1E8, 0x4B), (0x1E9, 0x6B),
      (0x1EE, 0x1B7), (0x1EF, 0x292), (0x1F0, 0x6A), (0x21E, 0x48), (0x21F, 0x68)]
  | .cedilla =>
    [(0xC7, 0x43), (0xE7, 0x63), (0x122, 0x47), (0x123, 0x67), (0x136, 0x4B), (0x137, 0x6B),
      (0x13B, 0x4C), (0x13C, 0x6C), (0x145, 0x4E), (0x146, 0x6E), (0x156, 0x52), (0x157, 0x72),
      (0x15E, 0x53), (0x15F, 0x73), (0x162, 0x54), (0x163, 0x74), (0x228, 0x45), (0x229, 0x65),
      (0x1E10, 0x44), (0x1E11, 0x64), (0x1E28, 0x48), (0x1E29, 0x68)]
  | .ogonek =>
    [(0x104, 0x41), (0x105, 0x61), (0x118, 0x45), (0x119, 0x65), (0x12E, 0x49), (0x12F, 0x69),
      (0x172, 0x55), (0x173, 0x75), (0x1EA, 0x4F), (0x1EB, 0x6F)]

end Accent

def decompose? (c : Char) : Option (Char × Accent) :=
  Accent.all.findSome? fun a ↦ (a.table.lookup c.toNat).map fun base ↦ (Char.ofNat base, a)

end BookIndex.Text
