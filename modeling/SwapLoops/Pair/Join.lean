import SwapLoops.Pair

/-! Joining two states of one pair. Each part of the result comes from the side
that wrote it last, so it does not matter which of the two arrived first. -/

namespace SwapLoops.Pair

def reservesSince (p : Pair) : Option Position :=
  p.earlier.reserves <|>
    if p.reserve0 != 0 || p.reserve1 != 0 then some p.provenance.position else none

def feeSince (p : Pair) : Option Position :=
  p.earlier.fee <|> p.fee.map fun _ => p.provenance.position

/-- Full reads carry the token identity and failed reads the failure; an update of
the reserves alone carries neither. -/
def statusSince (p : Pair) : Option Position :=
  p.earlier.status <|> if p.failed || p.knowsTokens then some p.provenance.position else none

/-- The side that wrote a part last, and where. The newer side wins a tie. -/
def laterPart (newer older : Pair) (since : Pair → Option Position) :
    Pair × Option Position :=
  match since newer, since older with
  | some n, some o => if n < o then (older, some o) else (newer, some n)
  | none, some o => (older, some o)
  | at?, none => (newer, at?)

/-- Later in the chain, or at the same place and seen later. -/
def NewerThan (p q : Pair) : Prop :=
  p.provenance.Succeeds q.provenance ∨
    p.provenance.position = q.provenance.position ∧
      q.provenance.observedAt < p.provenance.observedAt

instance (p q : Pair) : Decidable (p.NewerThan q) :=
  inferInstanceAs (Decidable (_ ∨ _ ∧ _))

def identitySource (status newer older : Pair) : Pair :=
  if status.knowsTokens then status
  else if newer.knowsTokens then newer
  else if older.knowsTokens then older
  else newer

def joinOrdered (newer older : Pair) : Pair :=
  let below : Option Position → Option Position :=
    Option.filter (· != newer.provenance.position)
  let reserves := laterPart newer older reservesSince
  let fee := laterPart newer older feeSince
  let status := laterPart newer older statusSince
  let identity := identitySource status.1 newer older
  { newer with
    token0 := identity.token0
    token1 := identity.token1
    reserve0 := reserves.1.reserve0
    reserve1 := reserves.1.reserve1
    fee := fee.1.fee
    failed := status.1.failed
    earlier := ⟨below reserves.2, below fee.2, below status.2⟩ }

def join (p q : Pair) : Pair :=
  if q.NewerThan p then joinOrdered q p else joinOrdered p q

/-- What a current state becomes when a stale one still adds to it. -/
def absorb? (current stale : Pair) : Option Pair :=
  let joined := join current stale
  if joined = current then none else some joined

end SwapLoops.Pair
