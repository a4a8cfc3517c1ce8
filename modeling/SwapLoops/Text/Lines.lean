/-! Text as lines. A line ends with a line feed, or with a carriage return and a
line feed; the last one may have no end. -/

namespace SwapLoops.Text

def dropReturn (line : List Char) : List Char :=
  if line.getLast? = some '\r' then line.dropLast else line

/-- The lines of the rest of a text, where `line` holds what was read of the
present one, latest first. -/
def linesFrom (line : List Char) : List Char → List (List Char)
  | [] => if line = [] then [] else [line.reverse]
  | c :: rest =>
    if c = '\n' then dropReturn line.reverse :: linesFrom [] rest else linesFrom (c :: line) rest

def lines (s : String) : List String := (linesFrom [] s.toList).map String.ofList

def unlines (ls : List String) : String := String.join (ls.map (· ++ "\n"))

end SwapLoops.Text
