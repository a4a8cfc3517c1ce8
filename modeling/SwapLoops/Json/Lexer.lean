import SwapLoops.Digits
import SwapLoops.Double
import SwapLoops.Json

/-! From characters to tokens. Only the four blanks of JSON may stand between
tokens, and numbers have no leading zeros. -/

namespace SwapLoops.Json

def isSpace (c : Char) : Bool := c = ' ' || c = '\n' || c = '\t' || c = '\r'

def shortEscape? (c : Char) : Option Char :=
  match c with
  | '"' => some '"'
  | '\\' => some '\\'
  | '/' => some '/'
  | 'b' => some '\x08'
  | 'f' => some '\x0c'
  | 'n' => some '\n'
  | 'r' => some '\r'
  | 't' => some '\t'
  | _ => none

def isLeadUnit (u : Nat) : Bool := 0xD800 ≤ u && u < 0xDC00

def isTrailUnit (u : Nat) : Bool := 0xDC00 ≤ u && u < 0xE000

/-- The character of two units that stand for one. -/
def joinUnits (lead trail : Nat) : Char :=
  Char.ofNat (0x10000 + (lead - 0xD800) * 0x400 + (trail - 0xDC00))

def lexText : List Char → Option (List Char × List Char)
  | [] => none
  | '"' :: rest => some ([], rest)
  | '\\' :: 'u' :: a :: b :: c :: d :: rest => do
    let unit ← Digits.toNat? 16 [a, b, c, d]
    if isTrailUnit unit then none
    else if isLeadUnit unit then
      match rest with
      | '\\' :: 'u' :: e :: f :: g :: h :: rest' =>
        let trail ← Digits.toNat? 16 [e, f, g, h]
        if isTrailUnit trail then
          (lexText rest').map fun (cs, after) => (joinUnits unit trail :: cs, after)
        else none
      | _ => none
    else (lexText rest).map fun (cs, after) => (Char.ofNat unit :: cs, after)
  | '\\' :: c :: rest => do
    let c ← shortEscape? c
    (lexText rest).map fun (cs, after) => (c :: cs, after)
  | c :: rest =>
    if c.toNat < 0x20 || c = '\\' then none
    else (lexText rest).map fun (cs, after) => (c :: cs, after)
termination_by cs => cs.length

/-- The leading digits that fit in 64 bits behind a number, and how many are left. -/
def takeDigits (n : Nat) : List Char → Nat × Nat
  | [] => (n, 0)
  | c :: rest =>
    let next := n * 10 + (c.toNat - 48)
    if next < UInt64.size then takeDigits next rest else (n, (c :: rest).length)

/-- The digits that count in a number, and the power of ten they are taken by. -/
def scaled (whole fraction : List Char) (exponent : Int) : Nat × Int :=
  let (n, skipped) := takeDigits 0 whole
  let (n, dropped) := takeDigits n fraction
  (n, exponent + skipped - (fraction.length - dropped))

/-- Numbers from here on have no nearest double. -/
def realLimit : Nat := (1 <<< 1024) - (1 <<< 970)

def maxExponent : Int := 308

/-- Whether the product of the doubles nearest to the digits and to the power of ten
is a double. A fraction that is too small for one stands for zero. -/
def inRealRange (n : Nat) (exponent : Int) : Bool :=
  n = 0 || exponent < 0 ||
    (exponent ≤ maxExponent &&
      Double.nearest n * Double.nearest (Digits.placeValue exponent.toNat) < realLimit)

def real? (whole fraction : List Char) (exponent : Int) : Option Token :=
  let (n, exponent) := scaled whole fraction exponent
  if inRealRange n exponent then some .real else none

/-- A whole number as a token. The negative zero is no integer. -/
def wholeToken? (negative : Bool) (digits : List Char) : Option Token :=
  match Digits.toNat? 10 digits with
  | none => none
  | some n =>
    if negative then
      if 0 < n ∧ n ≤ UInt64.size / 2 then some (.int (-n)) else real? digits [] 0
    else if n < UInt64.size then some (.int n) else real? digits [] 0

def lexFraction (cs : List Char) : Option (Option (List Char) × List Char) :=
  match cs with
  | '.' :: rest =>
    let digits := rest.takeWhile Digits.isDecimal
    if digits = [] then none else some (some digits, rest.dropWhile Digits.isDecimal)
  | _ => some (none, cs)

def exponentOf? (negative : Bool) (cs : List Char) : Option (Option Int × List Char) :=
  let digits := cs.takeWhile Digits.isDecimal
  match digits, Digits.toNat? 10 digits with
  | _ :: _, some n => some (some (if negative then -n else n), cs.dropWhile Digits.isDecimal)
  | _, _ => none

def lexExponent (cs : List Char) : Option (Option Int × List Char) :=
  match cs with
  | 'e' :: '-' :: rest | 'E' :: '-' :: rest => exponentOf? true rest
  | 'e' :: '+' :: rest | 'E' :: '+' :: rest => exponentOf? false rest
  | 'e' :: rest | 'E' :: rest => exponentOf? false rest
  | _ => some (none, cs)

def lexNumber (negative : Bool) (cs : List Char) : Option (Token × List Char) := do
  let whole := cs.takeWhile Digits.isDecimal
  if whole = [] ∨ (whole.head? = some '0' ∧ 1 < whole.length) then none
  else
    let (fraction, rest) ← lexFraction (cs.dropWhile Digits.isDecimal)
    let (exponent, rest) ← lexExponent rest
    let token ← match fraction, exponent with
      | none, none => wholeToken? negative whole
      | _, _ => real? whole (fraction.getD []) (exponent.getD 0)
    some (token, rest)

def lexToken (cs : List Char) : Option (Token × List Char) :=
  match cs with
  | '\x7b' :: rest => some (.beginObject, rest)
  | '\x7d' :: rest => some (.endObject, rest)
  | '[' :: rest => some (.beginList, rest)
  | ']' :: rest => some (.endList, rest)
  | ',' :: rest => some (.comma, rest)
  | ':' :: rest => some (.colon, rest)
  | 'n' :: 'u' :: 'l' :: 'l' :: rest => some (.null, rest)
  | 't' :: 'r' :: 'u' :: 'e' :: rest => some (.bool true, rest)
  | 'f' :: 'a' :: 'l' :: 's' :: 'e' :: rest => some (.bool false, rest)
  | '"' :: rest => (lexText rest).map fun (s, after) => (.text (String.ofList s), after)
  | '-' :: rest => lexNumber true rest
  | _ => lexNumber false cs

def lex (cs : List Char) : Option (List Token) :=
  match cs with
  | [] => some []
  | c :: rest =>
    if isSpace c then lex rest
    else
      match lexToken (c :: rest) with
      | none => none
      | some (token, after) =>
        if _ : after.length < (c :: rest).length then (lex after).map (token :: ·) else none
termination_by cs.length
decreasing_by
  · exact Nat.lt_succ_self rest.length
  · assumption

end SwapLoops.Json
