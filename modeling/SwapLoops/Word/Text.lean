import SwapLoops.Digits
import SwapLoops.Word

/-! Words as text. A word is printed in decimal; it is read in a radix, where
underscores are skipped and no digits at all stand for zero. -/

namespace SwapLoops.Word

def text (w : Word) : String := toString w.toNat

def ofRadix? (radix : Nat) (digits : List Char) : Option Word :=
  match Digits.toNat? radix (digits.filter (· != '_')) with
  | some n => if n ≤ max.toNat then some (BitVec.ofNat 256 n) else none
  | none => none

def ofDecimal? (s : String) : Option Word := ofRadix? 10 s.toList

def splitRadix : List Char → Nat × List Char
  | '0' :: 'x' :: rest | '0' :: 'X' :: rest => (16, rest)
  | '0' :: 'o' :: rest | '0' :: 'O' :: rest => (8, rest)
  | '0' :: 'b' :: rest | '0' :: 'B' :: rest => (2, rest)
  | digits => (10, digits)

def ofText? (s : String) : Option Word :=
  let (radix, digits) := splitRadix s.toList
  ofRadix? radix digits

end SwapLoops.Word
