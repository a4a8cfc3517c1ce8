import Std.Data.ExtTreeMap
import SwapLoops.Digits

/-! Addresses of pairs and tokens: 160-bit numbers, read and written as 40
hexadecimal digits. The zero address stands for an unknown one. -/

namespace SwapLoops

abbrev Address := BitVec 160

namespace Address

/-- Addresses are ordered as the numbers they are. -/
instance : Std.TransOrd Address := inferInstance

def digits (a : Address) : List Char := Digits.hex 40 a.toNat

def bareHex (a : Address) : String := String.ofList a.digits

def hex (a : Address) : String := "0x" ++ a.bareHex

/-- The digits without the mark for hexadecimal text, if it is there. -/
def dropMark : List Char → List Char
  | '0' :: 'x' :: rest | '0' :: 'X' :: rest => rest
  | digits => digits

def ofDigits? (digits : List Char) : Option Address :=
  if digits.length = 40 then (Digits.toNat? 16 digits).map (BitVec.ofNat 160) else none

def ofText? (s : String) : Option Address := ofDigits? (dropMark s.toList)

end Address

end SwapLoops
