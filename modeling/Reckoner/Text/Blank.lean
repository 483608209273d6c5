import Reckoner.Text.CodeSet

/-! White space, and the two ways of doing without it: at both ends of a text, or everywhere. -/

namespace Reckoner.Text

def blanks : CodeSet := [
    (0x9, 0xD), (0x1C, 0x20), (0x85, 0x85), (0xA0, 0xA0), (0x1680, 0x1680), (0x2000, 0x200A),
    (0x2028, 0x2029), (0x202F, 0x202F), (0x205F, 0x205F), (0x3000, 0x3000)]

def isBlank (c : Char) : Bool :=
  blanks.contains c.toNat

def trimLeft (cs : List Char) : List Char :=
  cs.dropWhile isBlank

def trim (cs : List Char) : List Char :=
  (trimLeft (trimLeft cs).reverse).reverse

def withoutBlanks (cs : List Char) : List Char :=
  cs.filter fun c => !isBlank c

end Reckoner.Text
