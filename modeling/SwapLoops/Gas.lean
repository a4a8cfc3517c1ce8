import SwapLoops.Word

/-! Gas prices of the chain that is traded on and of a reference chain. Both
raise the least profit of a trade in steps. -/

namespace SwapLoops

/-- Wei for one unit of gas. -/
abbrev GasPrice := BitVec 128

def greatestPrice : GasPrice := BitVec.allOnes 128

def gasFor (hops : Nat) : Nat :=
  match hops with
  | 2 => 210000
  | 3 => 250000
  | 4 => 320000
  | 5 => 360000
  | n => 80000 + 60000 * n

structure GasQuote where
  here : GasPrice
  reference : GasPrice
deriving DecidableEq, Repr

def stepFactor (price : GasPrice) (steps : List (GasPrice × Nat)) : Nat :=
  ((steps.filter (·.1 < price)).map Prod.snd).foldl max 1

namespace GasQuote

def initial : GasQuote := ⟨120000000, 20000000000⟩

def hereSteps : List (GasPrice × Nat) := [(1000000000, 2), (5000000000, 4)]

def referenceSteps : List (GasPrice × Nat) := [(50000000000, 2), (150000000000, 4)]

/-- The price to bid: a tenth of the quoted one, and never nothing. -/
def bid (g : GasQuote) : GasPrice := if g.here / 10 = 0 then 1 else g.here / 10

def marginFactor (g : GasQuote) : Nat :=
  max (stepFactor g.here hereSteps) (stepFactor g.reference referenceSteps)

def cost (g : GasQuote) (hops : Nat) : Word :=
  BitVec.ofNat 256 (gasFor hops * g.here.toNat)

/-- A reading of nothing is a broken feed, not free gas. -/
def withHere (g : GasQuote) (price : GasPrice) : GasQuote :=
  if price = 0 then g else { g with here := price }

def withReference (g : GasQuote) (price : GasPrice) : GasQuote :=
  if price = 0 then g else { g with reference := price }

end GasQuote

end SwapLoops
