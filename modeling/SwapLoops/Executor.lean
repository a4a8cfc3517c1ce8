import SwapLoops.Market
import SwapLoops.Trade

/-! Who carries out a trade, and how it may answer. The dry run sends nothing: it
checks a trade once more, on the states the trade was sized on or on the latest
ones of the market. -/

namespace SwapLoops

inductive Reply
  | report (r : TradeReport)
  | refusal (e : TradeError)
  | silence
deriving DecidableEq, Repr

def Reply.ofExcept : Except TradeError TradeReport → Reply
  | .ok r => .report r
  | .error e => .refusal e

/-- The live state of each pair on a path. A pair that has none stays as it is given. -/
def Market.latest (m : Market) (now : Seconds) : List Pair → List Pair × Market
  | [] => ([], m)
  | p :: rest =>
    let (found, m) := m.lookUp p.address now
    let (path, m) := m.latest now rest
    (found.getD p :: path, m)

abbrev Executor (Memory : Type) :=
  TradeOrder → GasQuote → Seconds → Market → Memory → Reply × Market × Memory

namespace Executor

variable {Memory : Type}

def dryRun : Executor Memory := fun order gas _ market memory =>
  (.ofExcept (rehearse order order.path gas), market, memory)

def dryRunOnMarket : Executor Memory := fun order gas now market memory =>
  let (path, market) := market.latest now order.path
  (.ofExcept (rehearse order path gas), market, memory)

end Executor

end SwapLoops
