import Reckoner.Number.Shortest
import Reckoner.Text.Numeral

/-! JSON documents of one flat object. There is no literal for an infinite number or for one that is none, so
numbers are finite by their type. -/

namespace Reckoner

inductive Json
  | null
  | bool (value : Bool)
  | number (value : Binary)
  | text (value : String)
  deriving DecidableEq, Repr

namespace Json

/-- Only the mark, the backslash and the controls below the space are escaped. -/
def escape (c : Char) : List Char :=
  if c = '"' || c = '\\' then ['\\', c]
  else if c = '\n' then ['\\', 'n']
  else if c = '\r' then ['\\', 'r']
  else if c = '\t' then ['\\', 't']
  else if c = '\x0c' then ['\\', 'f']
  else if c = '\x08' then ['\\', 'b']
  else if c.toNat < 0x20 then '\\' :: 'u' :: Text.numeral 16 4 c.toNat
  else [c]

def quote (text : String) : String :=
  String.ofList ('"' :: (text.toList.flatMap escape ++ ['"']))

def render : Json → String
  | .null => "null"
  | .bool value => if value then "true" else "false"
  | .number value => value.text
  | .text value => quote value

def renderMember (member : String × Json) : String :=
  "  " ++ quote member.1 ++ ": " ++ member.2.render

/-- An object with one member a line. -/
def renderObject (members : List (String × Json)) : String :=
  if members.isEmpty then "\x7b\x7d"
  else "\x7b\n" ++ ",\n".intercalate (members.map renderMember) ++ "\n\x7d"

end Json
end Reckoner
