/-! ZSCII, the character set of stories, and its relation to Unicode. -/

namespace StoryMachine

/-- A ZSCII code. Codes above 1023 cannot be written in a story's text. -/
abbrev Zscii := UInt16

namespace Zscii

def newLine : Zscii := 13
def space : Zscii := 32

/-- Lower case for the letters A to Z, every other code as it is. -/
def toLower (code : Zscii) : Zscii :=
  if 0x41 ≤ code ∧ code ≤ 0x5a then code + 0x20 else code

/-- Unicode code points of the codes from 155. -/
def extraCharacters : List Nat :=
  [0xe4, 0xf6, 0xfc, 0xc4, 0xd6, 0xdc, 0xdf, 0xbb, 0xab, 0xeb, 0xef, 0xff, 0xcb, 0xcf, 0xe1, 0xe9,
    0xed, 0xf3, 0xfa, 0xfd, 0xc1, 0xc9, 0xcd, 0xd3, 0xda, 0xdd, 0xe0, 0xe8, 0xec, 0xf2, 0xf9, 0xc0,
    0xc8, 0xcc, 0xd2, 0xd9, 0xe2, 0xea, 0xee, 0xf4, 0xfb, 0xc2, 0xca, 0xce, 0xd4, 0xdb, 0xe5, 0xc5,
    0xf8, 0xd8, 0xe3, 0xf1, 0xf5, 0xc3, 0xd1, 0xd5, 0xe6, 0xc6, 0xe7, 0xc7, 0xfe, 0xf0, 0xde, 0xd0,
    0xa3, 0x153, 0x152, 0xa1, 0xbf]

def firstExtra : Nat := 155

/-- The code point a code prints as, if it is printable. -/
def toUnicode? (code : Zscii) : Option Nat :=
  if code = newLine then some 10
  else if 32 ≤ code ∧ code ≤ 126 then some code.toNat
  else if code.toNat < firstExtra then none
  else extraCharacters[code.toNat - firstExtra]?

/-- The code of a Unicode code point, if it has one. Both line ends are the new line. -/
def ofUnicode? (point : Nat) : Option Zscii :=
  if point = 10 ∨ point = 13 then some newLine
  else if 32 ≤ point ∧ point ≤ 126 then some (UInt16.ofNat point)
  else (extraCharacters.idxOf? point).map fun index => UInt16.ofNat (index + firstExtra)

def ofString (text : String) : List Zscii :=
  text.toList.map fun c => UInt16.ofNat c.toNat

end Zscii

end StoryMachine
