import SwapLoops.Digits
import SwapLoops.Double

/-! Doubles as text: a fixed number of places, or a fixed number of digits
with an exponent. Both round the exact binary value, a half to the even digit. -/

namespace SwapLoops.Double

/-- A finite double is `num / den`, up to its sign. -/
structure Ratio where
  negative : Bool
  num : Nat
  den : Nat

inductive Class
  | finite (r : Ratio)
  | infinite (negative : Bool)
  | nan

def classify (x : Float) : Class :=
  let bits := x.toBits.toNat
  let negative := bits >>> 63 = 1
  let e := (bits >>> 52) % 2048
  let fraction := bits % hiddenBit
  if e = 2047 then
    if fraction = 0 then .infinite negative else .nan
  else if e = 0 then .finite ⟨negative, fraction, 1 <<< 1074⟩
  else if 1075 ≤ e then .finite ⟨negative, (hiddenBit + fraction) <<< (e - 1075), 1⟩
  else .finite ⟨negative, hiddenBit + fraction, 1 <<< (1075 - e)⟩

/-- Zero is written without a sign. -/
def signText (negative : Bool) (num : Nat) : String :=
  if negative && num != 0 then "-" else ""

def fixed (places : Nat) (x : Float) : String :=
  match classify x with
  | .nan => "nan"
  | .infinite negative => if negative then "-inf" else "inf"
  | .finite r =>
    let scaled := roundHalfEven (r.num * Digits.placeValue places) r.den
    let whole := toString (scaled / Digits.placeValue places)
    let sign := signText r.negative r.num
    if places = 0 then sign ++ whole
    else sign ++ whole ++ "." ++
      Digits.padLeft places (toString (scaled % Digits.placeValue places))

/-- The least `k`, up to `fuel`, with `num < den * 10 ^ (k + 1)`. -/
def ceilingPower (num den : Nat) : Nat → Nat
  | 0 => 0
  | fuel + 1 => if num < den * 10 then 0 else ceilingPower num (den * 10) fuel + 1

def decimalExponent (num den : Nat) : Int :=
  if den ≤ num then ceilingPower num den (num.log2 + 1)
  else -(ceilingPower (den - 1) num (den.log2 + 1) + 1)

def digitsFrom (num den : Nat) (exponent : Int) (places : Nat) : Nat :=
  let shift : Int := places - exponent
  if 0 ≤ shift then roundHalfEven (num * Digits.placeValue shift.toNat) den
  else roundHalfEven num (den * Digits.placeValue (-shift).toNat)

def scientific (places : Nat) (x : Float) : String :=
  match classify x with
  | .nan => "nan"
  | .infinite negative => if negative then "-inf" else "inf"
  | .finite r =>
    let e := if r.num = 0 then 0 else decimalExponent r.num r.den
    let digits := digitsFrom r.num r.den e places
    let unit := Digits.placeValue places
    let (digits, e) := if digits = unit * 10 then (unit, e + 1) else (digits, e)
    let sign := signText r.negative r.num
    let lead := toString (digits / unit)
    let rest := Digits.padLeft places (toString (digits % unit))
    sign ++ lead ++ (if places = 0 then "" else "." ++ rest) ++ "e" ++ toString e

/-- The 16 hexadecimal digits of the bits. Every NaN is written the same. -/
def bitsText (x : Float) : String :=
  if x.isNaN then "nan" else String.ofList (Digits.hex 16 x.toBits.toNat)

end SwapLoops.Double
