/-! Digits of whole numbers in a radix up to 36, and hexadecimal text. -/

namespace SwapLoops.Digits

/-- The value of a digit: ten and more are letters of either case. -/
def value? (c : Char) : Option Nat :=
  if '0' ≤ c ∧ c ≤ '9' then some (c.toNat - 48)
  else if 'a' ≤ c ∧ c ≤ 'z' then some (c.toNat - 87)
  else if 'A' ≤ c ∧ c ≤ 'Z' then some (c.toNat - 55)
  else none

def extend? (radix n : Nat) (c : Char) : Option Nat :=
  match value? c with
  | some d => if d < radix then some (n * radix + d) else none
  | none => none

/-- The number written by the digits; no digits stand for zero. -/
def toNat? (radix : Nat) (digits : List Char) : Option Nat :=
  digits.foldlM (extend? radix) 0

def hexDigit (n : Nat) : Char :=
  if n < 10 then Char.ofNat (48 + n) else Char.ofNat (87 + n)

def hex : Nat → Nat → List Char
  | 0, _ => []
  | width + 1, n => hex width (n / 16) ++ [hexDigit (n % 16)]

def isDecimal (c : Char) : Bool := '0' ≤ c ∧ c ≤ '9'

def unsigned? (digits : List Char) : Option Nat :=
  let digits := if digits.head? = some '+' then digits.tail else digits
  if digits = [] then none else toNat? 10 digits

def placeValue (places : Nat) : Nat := Nat.pow 10 places

def padLeft (width : Nat) (digits : String) : String :=
  String.ofList (List.replicate (width - digits.length) '0') ++ digits

end SwapLoops.Digits
