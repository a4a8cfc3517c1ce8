import SwapLoops.Text.Blank

/-! Text in parts. -/

namespace SwapLoops.Text

/-- The parts between the characters that separate, which are one more than those. -/
def splitWhere (separates : Char → Bool) (cs : List Char) : List (List Char) :=
  cs.foldr
    (fun c parts =>
      if separates c then [] :: parts
      else
        match parts with
        | [] => [[c]]
        | part :: parts => (c :: part) :: parts)
    [[]]

def splitAt (separator : Char) (cs : List Char) : List (List Char) := splitWhere (· = separator) cs

def words (s : String) : List (List Char) := (splitWhere isBlank s.toList).filter (· ≠ [])

end SwapLoops.Text
