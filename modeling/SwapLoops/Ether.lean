import SwapLoops.Digits
import SwapLoops.Double

/-! Decimal amounts of ether: a sign, a mantissa of 96 bits and up to 28 places,
and how they turn into wei. -/

namespace SwapLoops

def Decimal.limit : Nat := 1 <<< 96

structure Decimal where
  negative : Bool
  mantissa : Nat
  scale : Nat
  mantissa_lt : mantissa < Decimal.limit
  scale_le : scale ≤ 28
deriving DecidableEq, Repr

inductive DecimalError
  | empty
  | noDigits
  | twoPoints
  | leadingSeparator
  | unknownCharacter
  | tooManyDigits
  | roundedTooLarge
  | exponent
  | precision (places : Nat)
  | tooLarge
deriving DecidableEq, Repr

def DecimalError.message : DecimalError → String
  | .empty => "Invalid decimal: empty"
  | .noDigits => "Invalid decimal: no digits found"
  | .twoPoints => "Invalid decimal: two decimal points"
  | .leadingSeparator => "Invalid decimal: must start lead with a number"
  | .unknownCharacter => "Invalid decimal: unknown character"
  | .tooManyDigits => "Invalid decimal: overflow from too many digits"
  | .roundedTooLarge => "Invalid decimal: overflow from mantissa after rounding"
  | .exponent => "Failed to parse"
  | .precision places =>
    "Scale exceeds the maximum precision allowed: " ++ toString places ++ " > 28"
  | .tooLarge => "Number exceeds maximum value that can be represented."

namespace Decimal

def ofParts? (negative : Bool) (mantissa scale : Nat) : Option Decimal :=
  if h : mantissa < limit ∧ scale ≤ 28 then some ⟨negative, mantissa, scale, h.1, h.2⟩ else none

def greatest : Decimal := ⟨false, limit - 1, 0, by decide, by decide⟩

def text (d : Decimal) : String :=
  let sign := if d.negative then "-" else ""
  let whole := toString (d.mantissa / Digits.placeValue d.scale)
  if d.scale = 0 then sign ++ whole
  else sign ++ whole ++ "." ++
    Digits.padLeft d.scale (toString (d.mantissa % Digits.placeValue d.scale))

def misplaced (c : Char) : DecimalError :=
  if c = '.' then .twoPoints
  else if c = '_' then .leadingSeparator
  else .unknownCharacter

def build (negative : Bool) (mantissa scale : Nat) : Except DecimalError Decimal :=
  match ofParts? negative mantissa scale with
  | some d => .ok d
  | none => .error .tooLarge

/-- Ends a number that was read. Zero has no sign, and a scale past the last place
starts again from none. -/
def finish (negative : Bool) (mantissa scale : Nat) : Except DecimalError Decimal :=
  build (negative && mantissa != 0) mantissa (scale % 29)

/-- A character that takes no part in a number that is full. -/
def isTrailing (c : Char) : Bool := Digits.isDecimal c || c = '_'

/-- Ends a number that has no room for the digit `c`: a half rounds up, and a
mantissa that then overflows gives up its last place. More digits may follow. -/
def roundAt (negative : Bool) (mantissa scale : Nat) (c : Char) (rest : List Char) :
    Except DecimalError Decimal :=
  match (c :: rest).find? (!isTrailing ·) with
  | some c' => .error (misplaced c')
  | none =>
    if '5' ≤ c ∧ c ≤ '9' then
      if mantissa + 1 < limit then finish negative (mantissa + 1) scale
      else if scale = 0 then .error .roundedTooLarge
      else finish negative ((mantissa + 1 + 4) / 10) (scale - 1)
    else finish negative mantissa scale

/-- From this mantissa on a number is wide: one more digit could pass 64 bits. -/
def wideFrom : Nat := (UInt64.size - 1) / 10 - 255

/-- Reads digits after `mantissa`, of which `scale` stand behind the point. Behind
the last place a wide number skips an underscore and reads on, and any other one
takes it for a digit that is too small to count. -/
def readDigits (negative : Bool) :
    (wide point started : Bool) → (mantissa scale : Nat) → List Char →
      Except DecimalError Decimal
  | _, _, started, mantissa, scale, [] =>
    if started then finish negative mantissa scale else .error .noDigits
  | wide, point, started, mantissa, scale, c :: rest =>
    if Digits.isDecimal c then
      let next := mantissa * 10 + (c.toNat - 48)
      if limit ≤ next then
        if point then roundAt negative mantissa scale c rest else .error .tooManyDigits
      else
        let scale := if point then scale + 1 else scale
        match rest with
        | [] => finish negative next scale
        | c' :: rest' =>
          if 28 ≤ scale then
            if wide ∧ c' = '_' then readDigits negative true point true next scale rest'
            else roundAt negative next scale c' rest'
          else readDigits negative (wide || wideFrom ≤ next) point true next scale (c' :: rest')
    else if c = '.' ∧ !point then readDigits negative wide true started mantissa scale rest
    else if c = '_' ∧ started then readDigits negative wide point started mantissa scale rest
    else .error (misplaced c)

def ofPlain (cs : List Char) : Except DecimalError Decimal :=
  match cs with
  | [] => .error .empty
  | '-' :: rest => readDigits true false false false 0 0 rest
  | '+' :: rest => readDigits false false false false 0 0 rest
  | _ => readDigits false false false false 0 0 cs

/-- The mantissa with fewer places, a half rounded away from zero. What rounds to
zero keeps its sign. -/
def dropPlaces (mantissa places : Nat) : Nat :=
  (mantissa + Digits.placeValue places / 2) / Digits.placeValue places

def scaleDown (d : Decimal) (exponent : Nat) : Except DecimalError Decimal :=
  if 28 < exponent then .error (.precision exponent)
  else if d.scale + exponent ≤ 28 then build d.negative d.mantissa (d.scale + exponent)
  else build d.negative (dropPlaces d.mantissa (d.scale + exponent - 28)) 28

def scaleUp (d : Decimal) (exponent : Nat) : Except DecimalError Decimal :=
  if exponent ≤ d.scale then build d.negative d.mantissa (d.scale - exponent)
  else if 28 < exponent then .error (.precision exponent)
  else build d.negative (d.mantissa * Digits.placeValue (exponent - d.scale)) 0

def exponent? (digits : List Char) : Option Nat :=
  (Digits.unsigned? digits).filter (· < UInt32.size)

def isExponentMark (c : Char) : Bool := c = 'e' || c = 'E'

def ofScientific (cs : List Char) : Except DecimalError Decimal := do
  let d ← ofPlain (cs.takeWhile (!isExponentMark ·))
  match (cs.dropWhile (!isExponentMark ·)).tail with
  | '-' :: digits =>
    match exponent? digits with
    | some e => scaleDown d e
    | none => .error .exponent
  | digits =>
    match exponent? digits with
    | some e => scaleUp d e
    | none => .error .exponent

def ofText (s : String) : Except DecimalError Decimal :=
  match ofPlain s.toList with
  | .ok d => .ok d
  | .error e => if s.toList.any isExponentMark then ofScientific s.toList else .error e

/-- A product keeps as many of its places as fit, with the last one rounded. There is none if its
whole part alone does not fit. -/
def mul? (a b : Decimal) : Option Decimal :=
  let mantissa := a.mantissa * b.mantissa
  let scale := a.scale + b.scale
  if mantissa = 0 then ofParts? false 0 0
  else (List.range (scale + 1)).findSome? fun dropped =>
    ofParts? (a.negative != b.negative)
      (Double.roundHalfEven mantissa (Digits.placeValue dropped)) (scale - dropped)

theorem whole_lt (d : Decimal) : d.mantissa / Digits.placeValue d.scale < limit :=
  Nat.lt_of_le_of_lt (Nat.div_le_self _ _) d.mantissa_lt

def trunc (d : Decimal) : Decimal :=
  ⟨d.negative, d.mantissa / Digits.placeValue d.scale, 0, d.whole_lt, Nat.zero_le _⟩

def natural? (d : Decimal) : Option Nat :=
  if d.negative then none else some (d.mantissa / Digits.placeValue d.scale)

def weiPerEther : Decimal := ⟨false, Digits.placeValue 18, 0, by decide, by decide⟩

end Decimal

/-- Whole wei in an amount of ether, by any way of multiplying decimals: nothing for an amount
that is negative or does not fit 96 bits. -/
def etherToWeiBy? (mul? : Decimal → Decimal → Option Decimal) (d : Decimal) : Option Word :=
  if d.negative then none
  else do
    let product ← mul? d Decimal.weiPerEther
    let wei ← product.trunc.natural?
    some (BitVec.ofNat 256 wei)

def etherToWei? (d : Decimal) : Option Word := etherToWeiBy? Decimal.mul? d

/-- Wei as ether, with all 18 places; what does not fit is the greatest decimal. -/
def weiToEther (wei : Word) : Decimal :=
  (Decimal.ofParts? false wei.toNat 18).getD Decimal.greatest

end SwapLoops
