/-! Where in the chain a piece of state comes from, and when it was seen.
Positions are ordered by block, then transaction, then log. The time of
observation only drives expiry. -/

namespace SwapLoops

structure Position where
  block : UInt64
  tx : UInt64
  log : UInt64
deriving DecidableEq, Repr

namespace Position

def Before (p q : Position) : Prop :=
  p.block < q.block ∨ p.block = q.block ∧ (p.tx < q.tx ∨ p.tx = q.tx ∧ p.log < q.log)

instance : LT Position := ⟨Before⟩

instance (p q : Position) : Decidable (p < q) :=
  inferInstanceAs (Decidable (_ ∨ _ ∧ (_ ∨ _ ∧ _)))

/-- A read of a block reflects every log of that block. -/
def endOf (block : UInt64) : Position := ⟨block, -1, -1⟩

/-- The position of the log after this one, in the same transaction. -/
def next? (p : Position) : Option Position :=
  if p.log = -1 then none else some { p with log := p.log + 1 }

end Position

abbrev Seconds := Int64

namespace Seconds

def satAdd (a b : Seconds) : Seconds :=
  let sum := a.toInt + b.toInt
  if sum < Int64.minValue.toInt then Int64.minValue
  else if Int64.maxValue.toInt < sum then Int64.maxValue
  else Int64.ofInt sum

end Seconds

structure Provenance where
  position : Position
  observedAt : Seconds
deriving DecidableEq, Repr

namespace Provenance

def Succeeds (p q : Provenance) : Prop := q.position < p.position

instance (p q : Provenance) : Decidable (p.Succeeds q) :=
  inferInstanceAs (Decidable (_ < _))

def isStale (p : Provenance) (now ttl : Seconds) : Bool :=
  Seconds.satAdd p.observedAt ttl < now

end Provenance

end SwapLoops
