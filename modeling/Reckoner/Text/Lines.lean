/-! Lines of a text. A line ends at a line feed and nowhere else. What follows the last one is a line too, unless it
is empty. -/

namespace Reckoner.Text

/-- `line` holds the line under way, backwards. -/
def linesAfter (line : List Char) : List Char → List (List Char)
  | [] => if line.isEmpty then [] else [line.reverse]
  | c :: rest => if c = '\n' then line.reverse :: linesAfter [] rest else linesAfter (c :: line) rest

def lines (text : String) : List String :=
  (linesAfter [] text.toList).map String.ofList

end Reckoner.Text
