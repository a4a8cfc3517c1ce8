import SwapLoops.Unicode.Composition
import SwapLoops.Unicode.Direction
import SwapLoops.Unicode.HostMapping
import SwapLoops.Unicode.Joining
import SwapLoops.Url.Punycode

/-! The labels of a host name, in any script. Names that look the same have the same
labels, and a label can be read in one way only. -/

namespace SwapLoops.Url

open Unicode

/-! ## Characters -/

def forbidden : List Char :=
  ['#', '/', ':', '<', '>', '?', '@', '[', '\\', ']', '^', '|']

def isForbiddenInDomain (c : Char) : Bool :=
  c.toNat ≤ 0x20 || c ∈ forbidden || c = '%' || c.toNat = 0x7F

def isAscii (c : Char) : Bool := c.toNat < 0x80

/-! ## Codes -/

def longestCode : Nat := 2000

/-- What a label stands for. One that begins with `xn--` is a code, which has to be
that of a label as host names hold it. -/
def spelledOut? (label : List Char) : Option (List Char) :=
  match label with
  | 'x' :: 'n' :: '-' :: '-' :: code =>
    if code.all isAscii && code.getLast?.any (· ≠ '-') && code.length ≤ longestCode then
      (Punycode.decode? code).filter fun text => text.all isHostCharacter && compose text = text
    else none
  | _ => some label

/-! ## Joiners, which are not seen themselves -/

def nonJoiner : Char := Char.ofNat 0x200C

def joiner : Char := Char.ofNat 0x200D

/-- Whether the nearest character that is not transparent joins as it should. -/
def reaches (joins : Joining → Bool) : List Char → Bool
  | [] => false
  | c :: rest => joins (joining c) || (joining c = .transparent && reaches joins rest)

def joinsLeft (j : Joining) : Bool := j = .left || j = .dual

def joinsRight (j : Joining) : Bool := j = .right || j = .dual

/-- A joiner stands behind a virama; a character against joining may also stand
between two others that would join. What is before it is listed from the end. -/
def isJoinerUsed (before : List Char) (c : Char) (after : List Char) : Bool :=
  before.head?.any isVirama ||
    (c = nonJoiner && reaches joinsLeft before && reaches joinsRight after)

def usesJoiners (before : List Char) : List Char → Bool
  | [] => true
  | c :: rest =>
    ((c ≠ nonJoiner && c ≠ joiner) || isJoinerUsed before c rest) && usesJoiners (c :: before) rest

/-! ## Directions -/

def isRightward (d : Direction) : Bool :=
  d = .right || d = .arabicLetter || d = .arabicNumber

/-- Directions in a label from left to right, but for the first one, listed from the end. -/
def isLeftToRight : List Direction → Bool
  | [] => true
  | last :: inner =>
    (last = .left || last = .europeanNumber) &&
      inner.all fun d => d = .left || d = .europeanNumber || d = .neutral || d = .mark

/-- Directions in a label from right to left, but for the first one, listed from the end. -/
def isRightToLeft : List Direction → Bool
  | [] => true
  | last :: inner =>
    (isRightward last || last = .europeanNumber) &&
      (inner.all fun d => isRightward d || d = .europeanNumber || d = .neutral || d = .mark) &&
      !(.europeanNumber ∈ last :: inner && .arabicNumber ∈ last :: inner)

/-- Whether a label keeps its order next to labels of the other direction. Marks at its
end belong to the character before them. -/
def keepsOrder (label : List Char) : Bool :=
  match label.map direction with
  | [] => true
  | first :: rest =>
    let rest := rest.reverse.dropWhile (· = .mark)
    if first = .left then isLeftToRight rest
    else if first = .right ∨ first = .arabicLetter then isRightToLeft rest
    else false

/-! ## Names -/

def longestLabel : Nat := 1000

def isLabel (label : List Char) : Bool :=
  !label.any isForbiddenInDomain && !label.head?.any isMark && usesJoiners [] label &&
    (label.all isAscii || label.length ≤ longestLabel)

/-- The labels of a name as host names hold them. A name with a label from right to left
has labels that keep their order. -/
def labels? (name : List Char) : Option (List (List Char)) := do
  let forms ← name.mapM hostForm?
  let labels ← (Text.splitAt '.' (compose forms.flatten)).mapM spelledOut?
  let mixed := labels.any fun label => label.any (isRightward <| direction ·)
  if labels.all isLabel && (!mixed || labels.all keepsOrder) then some labels else none

end SwapLoops.Url
