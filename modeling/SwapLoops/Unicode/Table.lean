import Std.Data.ExtTreeMap
import SwapLoops.Digits
import SwapLoops.Text.Split

/-! Properties of characters as tables. A table is written as text of words, each of
which begins with the code of a character in hexadecimal digits. -/

namespace SwapLoops.Unicode

/-! ## Words -/

def code? (digits : List Char) : Option Nat :=
  if digits = [] then none else Digits.toNat? 16 digits

def character? (digits : List Char) : Option Char := (code? digits).map Char.ofNat

def pairOf? (separator : Char) (word : List Char) : Option (List Char × List Char) :=
  match Text.splitAt separator word with
  | [a, b] => some (a, b)
  | _ => none

def range? (word : List Char) : Option (Nat × Nat) :=
  match pairOf? '-' word with
  | some (first, last) => do some (← code? first, ← code? last)
  | none => (code? word).map fun n => (n, n)

/-! ## Values that hold from a character on, up to the next one with a value -/

structure Steps (α : Type) where
  values : Std.ExtTreeMap Nat α

namespace Steps

variable {α : Type}

def ofWords (read : List Char → Option (Nat × α)) (text : String) : Steps α :=
  ⟨.ofList ((Text.words text).filterMap read)⟩

/-- Reads words of a code and a value, with a colon between them. -/
def ofText (read : List Char → Option α) : String → Steps α :=
  ofWords fun word => do
    let (first, value) ← pairOf? ':' word
    some (← code? first, ← read value)

/-- The value that holds for a character, and the code that it holds from. -/
def entry? (s : Steps α) (c : Char) : Option (Nat × α) := s.values.getEntryLE? c.toNat

def at? (s : Steps α) (c : Char) : Option α := (s.entry? c).map Prod.snd

end Steps

/-! ## Sets of characters -/

/-- Ranges of codes, as the last code for each first one. -/
structure Ranges where
  lasts : Steps Nat

namespace Ranges

def ofText (text : String) : Ranges := ⟨Steps.ofWords range? text⟩

def holds (r : Ranges) (c : Char) : Bool := (r.lasts.at? c).any (c.toNat ≤ ·)

end Ranges

end SwapLoops.Unicode
