import Reckoner.Text.Numeral
import Reckoner.Text.Printable

/-! Quoted texts. A quoted text fits on one line and can be read back: the mark in use, the backslash and every
code point that is not printable are escaped, and all else stands for itself. -/

namespace Reckoner.Text

/-- The double mark is used only where it saves escaping single ones. -/
def quoteMark (cs : List Char) : Char :=
  if cs.contains '\'' && !cs.contains '"' then '"' else '\''

def escape (mark c : Char) : List Char :=
  if c = mark || c = '\\' then ['\\', c]
  else if c = '\n' then ['\\', 'n']
  else if c = '\r' then ['\\', 'r']
  else if c = '\t' then ['\\', 't']
  else if isPrintable c then [c]
  else if c.toNat < 0x100 then '\\' :: 'x' :: numeral 16 2 c.toNat
  else if c.toNat < 0x10000 then '\\' :: 'u' :: numeral 16 4 c.toNat
  else '\\' :: 'U' :: numeral 16 8 c.toNat

def quoteChars (cs : List Char) : List Char :=
  quoteMark cs :: (cs.flatMap (escape (quoteMark cs)) ++ [quoteMark cs])

def quote (text : String) : String :=
  String.ofList (quoteChars text.toList)

/-- An absent text is written without quotes, so that it differs from every text that is there. -/
def quoteOption (text : Option String) : String :=
  (text.map quote).getD "None"

end Reckoner.Text
