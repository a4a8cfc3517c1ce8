import SwapLoops.Word

/-! Doubles nearest to whole numbers, built from their bits. -/

namespace SwapLoops.Double

def roundHalfEven (num den : Nat) : Nat :=
  let q := num / den
  let r := num % den
  if den < 2 * r ∨ (2 * r = den ∧ q % 2 = 1) then q + 1 else q

/-- The leading bit of a fraction, which is not stored. -/
def hiddenBit : Nat := 1 <<< 52

/-- Bits of the double nearest to `n`, a tie to the even fraction. A carry out
of the fraction lands in the exponent field, which is the next binade. -/
def bitsOfNat (n : Nat) : Nat :=
  if n = 0 then 0
  else
    let e := n.log2
    let fraction := if e ≤ 52 then n <<< (52 - e) else roundHalfEven n (1 <<< (e - 52))
    (e + 1023) <<< 52 + (fraction - hiddenBit)

def nearest (n : Nat) : Nat :=
  let shift := n.log2 - 52
  roundHalfEven n (1 <<< shift) <<< shift

def ofNat (n : Nat) : Float := Float.ofBits (UInt64.ofNat (bitsOfNat n))

/-- A word as a double. Up to 128 bits it is the nearest double; a longer word
keeps its top 64 bits, and the bits below them do not take part in rounding. -/
def ofWord (w : Word) : Float :=
  if w.toNat.log2 < 128 then ofNat w.toNat
  else
    let shift := w.toNat.log2 - 63
    ofNat (w.toNat >>> shift <<< shift)

end SwapLoops.Double
