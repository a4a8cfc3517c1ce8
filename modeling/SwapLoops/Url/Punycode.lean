/-! Labels that hold any characters, written with letters, digits and hyphens: first
the characters that need no code, then, behind a hyphen, numbers that tell which other
ones are inserted, in the order of their codes, and where. -/

namespace SwapLoops.Url.Punycode

/-- Letters are the digits below 26, and decimal digits go on from there. -/
def digit? (c : Char) : Option Nat :=
  if 'a' ≤ c ∧ c ≤ 'z' then some (c.toNat - 97)
  else if 'A' ≤ c ∧ c ≤ 'Z' then some (c.toNat - 65)
  else if '0' ≤ c ∧ c ≤ '9' then some (c.toNat - 22)
  else none

def radix : Nat := 36

/-- A digit below this one is the last of its number. -/
def threshold (bias position : Nat) : Nat := min 26 (max 1 (position - bias))

/-- Reads a number, its lowest digit first, and adds it to a sum of 32 bits. -/
def readNumber (bias : Nat) :
    (position weight sum : Nat) → List Char → Option (Nat × List Char)
  | _, _, _, [] => none
  | position, weight, sum, c :: rest =>
    match digit? c with
    | none => none
    | some d =>
      let sum := sum + d * weight
      let weight' := weight * (radix - threshold bias position)
      if UInt32.size ≤ sum then none
      else if d < threshold bias position then some (sum, rest)
      else if UInt32.size ≤ weight' then none
      else readNumber bias (position + radix) weight' sum rest

theorem readNumber_shorter {bias sum' : Nat} {after : List Char} :
    ∀ {cs : List Char} {position weight sum : Nat},
      readNumber bias position weight sum cs = some (sum', after) → after.length < cs.length
  | [], _, _, _, h => by simp [readNumber] at h
  | c :: rest, position, weight, sum, h => by
    rw [readNumber] at h
    split at h
    · cases h
    · simp only at h
      split at h
      · cases h
      · split at h
        · cases h
          exact Nat.lt_succ_self _
        · split at h
          · cases h
          · exact Nat.lt_succ_of_lt (readNumber_shorter h)

/-- The bias for numbers of this size. -/
def settle (delta : Nat) : Nat :=
  if 455 < delta then radix + settle (delta / 35) else radix * delta / (delta + 38)
termination_by delta
decreasing_by exact Nat.div_lt_self (by omega) (by omega)

/-- The bias behind a number. The first one tells nothing about the ones to come. -/
def adapt (delta count : Nat) (first : Bool) : Nat :=
  let delta := if first then delta / 700 else delta / 2
  settle (delta + delta / count)

def insertFrom (code bias place : Nat) (text digits : List Char) : Option (List Char) :=
  if digits = [] then some text
  else
    match _ : readNumber bias radix 1 place digits with
    | none => none
    | some (sum, after) =>
      let count := text.length + 1
      let code := code + sum / count
      if code.isValidChar then
        insertFrom code (adapt (sum - place) count (place = 0)) (sum % count + 1)
          (text.insertIdx (sum % count) (Char.ofNat code)) after
      else none
termination_by digits.length
decreasing_by exact readNumber_shorter (by assumption)

def decode? (cs : List Char) : Option (List Char) :=
  let digits := (cs.reverse.takeWhile (· != '-')).reverse
  let text := cs.take (cs.length - digits.length - 1)
  if text = [] ∧ digits ≠ cs then none else insertFrom 128 72 0 text digits

end SwapLoops.Url.Punycode
