import Std.Data.ExtTreeMap
import SwapLoops.Double
import SwapLoops.Pair

/-! The fee of a pair, inferred from a swap and the reserves reported right after
it: the fee is the part of the input that the constant product does not explain. -/

namespace SwapLoops

structure SwapAmounts where
  in0 : Word
  in1 : Word
  out0 : Word
  out1 : Word
deriving DecidableEq, Repr

structure SwapEvent where
  pair : Address
  amounts : SwapAmounts
  provenance : Provenance
deriving DecidableEq, Repr

structure SyncEvent where
  pair : Address
  reserve0 : Word
  reserve1 : Word
  provenance : Provenance
deriving DecidableEq, Repr

namespace Fee

/-- Above this fee the pool may follow a stable curve and not the product. -/
def stableAbove : UInt32 := 200

def stableFee : UInt32 := 5

def stableTolerance : Float := 1.0001

def cube (x : Float) : Float := x * (x * x)

/-- The stable curve `x³y + y³x` barely moves in a swap that pays a fee. -/
def stableInvariant (x y : Float) : Float := cube x * y + cube y * x

/-- Rounding leaves the common fees one short. -/
def snap (fee : UInt32) : UInt32 :=
  if fee = 14 then 15
  else if fee = 19 then 20
  else if fee = 24 then 25
  else if fee = 29 then 30
  else fee

/-- The share of the input that is missing from the product, in the token whose
reserve was the smaller one before the swap. -/
def missingShare (reserve0 reserve1 before0 before1 : Float) : Float :=
  if before0 < before1 then
    (reserve0 * reserve1 / before1 - before0) / (reserve0 - before0)
  else
    (reserve0 * reserve1 / before0 - before1) / (reserve1 - before1)

def infer (swap : SwapAmounts) (reserve0 reserve1 : Word) : UInt32 :=
  let after0 := Double.ofWord reserve0
  let after1 := Double.ofWord reserve1
  let before0 := after0 + Double.ofWord swap.out0 - Double.ofWord swap.in0
  let before1 := after1 + Double.ofWord swap.out1 - Double.ofWord swap.in1
  let raw := ((missingShare after0 after1 before0 before1).abs * feeBase.toFloat).ceil
  if !raw.isFinite || raw ≤ 0 || feeBase.toFloat ≤ raw then defaultFee
  else
    let fee := raw.toUInt32
    let moved := stableInvariant after0 after1 / stableInvariant before0 before1
    if stableAbove < fee && 1 < moved && moved < stableTolerance then snap stableFee
    else snap fee

abbrev Table := Std.ExtTreeMap Address UInt32

def swapAt? (swaps : List SwapEvent) (at? : Position) : Option SwapEvent :=
  swaps.reverse.find? (·.provenance.position = at?)

/-- The swap that a sync belongs to: the log right after it, if that is a swap of
the same pair. -/
def swapOf? (swaps : List SwapEvent) (sync : SyncEvent) : Option SwapEvent := do
  let next ← sync.provenance.position.next?
  let swap ← swapAt? swaps next
  if swap.pair = sync.pair then some swap else none

/-- The fees of the pairs whose syncs have a swap, by any way of inferring one. The
first sync of a pair that has its swap decides. -/
def pairUp (fee : SwapAmounts → Word → Word → UInt32) (swaps : List SwapEvent)
    (syncs : List SyncEvent) : Table :=
  syncs.foldl
    (fun fees sync =>
      match swapOf? swaps sync with
      | some swap =>
        fees.insertIfNew sync.pair (fee swap.amounts sync.reserve0 sync.reserve1)
      | none => fees)
    ∅

def ofLogs (swaps : List SwapEvent) (syncs : List SyncEvent) : Table := pairUp infer swaps syncs

end Fee

end SwapLoops
