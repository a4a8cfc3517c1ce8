import SwapLoops.Digits
import SwapLoops.Text.Split
import SwapLoops.Url.Label

/-! Which hosts a URL may name: a domain without forbidden characters, an address
of four numbers, or one of eight groups in brackets. -/

namespace SwapLoops.Url

/-! ## Four numbers -/

def number? (cs : List Char) : Option Nat :=
  match cs with
  | [] => none
  | '0' :: 'x' :: digits | '0' :: 'X' :: digits => Digits.toNat? 16 digits
  | '0' :: c :: digits => Digits.toNat? 8 (c :: digits)
  | digits => Digits.toNat? 10 digits

def dropLastEmpty (parts : List (List Char)) : List (List Char) :=
  if parts.getLast? = some [] then parts.dropLast else parts

/-- Whether the last label of a domain is a number, so that all has to be an address. -/
def endsInNumber (labels : List (List Char)) : Bool :=
  match (dropLastEmpty labels).getLast? with
  | some label => (label ≠ [] && label.all Digits.isDecimal) || (number? label).isSome
  | none => false

/-- All numbers but the last are bytes; the last one fills the bytes that are left. -/
def isFourNumbers (labels : List (List Char)) : Bool :=
  match (dropLastEmpty labels).mapM number? with
  | some numbers =>
    match numbers.getLast? with
    | some last =>
      numbers.length ≤ 4 && last < 1 <<< (8 * (5 - numbers.length)) &&
        numbers.dropLast.all (· < 256)
    | none => false
  | none => false

/-! ## Eight groups -/

def isGroup (cs : List Char) : Bool :=
  cs ≠ [] && cs.length ≤ 4 && (Digits.toNat? 16 cs).isSome

def isByte (cs : List Char) : Bool :=
  match Digits.toNat? 10 cs with
  | some n => cs ≠ [] && n < 256 && (cs = ['0'] || cs.head? ≠ some '0')
  | none => false

def isFourBytes (cs : List Char) : Bool :=
  let parts := Text.splitAt '.' cs
  parts.length = 4 && parts.all isByte

/-- How many groups the parts stand for, where the last part may be four bytes. -/
def groupCount? : List (List Char) → Option Nat
  | [] => some 0
  | [part] => if isGroup part then some 1 else if isFourBytes part then some 2 else none
  | part :: parts => if isGroup part then (groupCount? parts).map (· + 1) else none

def splitGap? : List Char → Option (List Char × List Char)
  | [] => none
  | ':' :: ':' :: rest => some ([], rest)
  | c :: rest => (splitGap? rest).map fun (before, after) => (c :: before, after)

def partsOf (cs : List Char) : List (List Char) := if cs = [] then [] else Text.splitAt ':' cs

/-- Two colons stand for one or more groups of zeros. -/
def isEightGroups (cs : List Char) : Bool :=
  match splitGap? cs with
  | none => groupCount? (Text.splitAt ':' cs) = some 8
  | some (before, after) =>
    let parts := partsOf before
    match groupCount? parts, groupCount? (partsOf after) with
    | some m, some n => parts.all isGroup && m + n ≤ 7
    | _, _ => false

/-! ## Domains -/

/-- Bytes with each escape of a percent sign and two digits replaced by its value. -/
def unescape : List UInt8 → List UInt8
  | [] => []
  | 37 :: a :: b :: rest =>
    let digits := [Char.ofNat a.toNat, Char.ofNat b.toNat]
    match Digits.toNat? 16 digits with
    | some n => UInt8.ofNat n :: unescape rest
    | none => 37 :: unescape (a :: b :: rest)
  | b :: rest => b :: unescape rest
termination_by bytes => bytes.length

/-- The name that is written with escapes, if it is text. -/
def nameOf? (host : List Char) : Option (List Char) :=
  (String.fromUTF8? ⟨(unescape (String.ofList host).toUTF8.toList).toArray⟩).map String.toList

def isDomain (host : List Char) : Bool :=
  match (nameOf? host).bind labels? with
  | none => false
  | some labels => labels ≠ [[]] && (!endsInNumber labels || isFourNumbers labels)

def isBracketed (host : List Char) : Bool :=
  host.getLast? = some ']' && isEightGroups host.tail.dropLast

def isHost (host : List Char) : Bool :=
  if host.head? = some '[' then isBracketed host else isDomain host

def isOpaqueHost (host : List Char) : Bool :=
  if host.head? = some '[' then isBracketed host
  else host.all fun c => c ≠ ' ' && c.toNat ≠ 0 && c ∉ forbidden

end SwapLoops.Url
