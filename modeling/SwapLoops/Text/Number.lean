import SwapLoops.Digits

/-! Whole numbers below a limit, as text of decimal digits. A plus sign may stand
before them. -/

namespace SwapLoops

inductive NumberError
  | digit
  | tooLarge
deriving DecidableEq, Repr

def NumberError.message : NumberError → String
  | .digit => "invalid digit found in string"
  | .tooLarge => "number too large to fit in target type"

namespace Text

/-- The number with one more digit. What is wrong with the character comes before
what is wrong with the number. -/
def extendNumber (limit n : Nat) (c : Char) : Except NumberError Nat :=
  if Digits.isDecimal c then
    let next := n * 10 + (c.toNat - 48)
    if next < limit then .ok next else .error .tooLarge
  else .error .digit

def numberBelow (limit : Nat) (s : String) : Except NumberError Nat :=
  let digits := if s.toList.head? = some '+' then s.toList.tail else s.toList
  if digits = [] then .error .digit else digits.foldlM (extendNumber limit) 0

end Text

end SwapLoops
