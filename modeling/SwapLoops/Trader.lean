import SwapLoops.Cooldown
import SwapLoops.Market
import SwapLoops.PricedLoop
import SwapLoops.Trade

/-! The trader attempts the loops that show in its market. An attempt advances by
steps that nothing interrupts: it reads the gas prices, sizes the trade, passes
the cooldown, hands over its order, and reports a failure. Other attempts,
deliveries and gas changes may come between any two of them. -/

namespace SwapLoops

inductive Outcome
  | executed (report : TradeReport)
  | coolingDown
  | noProfitableSize
  | invalidPath
  | failed (error : TradeError) (failures : UInt32)
deriving DecidableEq, Repr

/-- How far an attempt has come, with what it has read on the way. -/
inductive Attempt
  | found (path : List Pair)
  | quoted (path : List Pair) (gas : GasQuote)
  | sized (path : List Pair) (gas : GasQuote) (size : SizedTrade)
  | entered (path : List Pair) (gas : GasQuote) (size : SizedTrade)
  | handed (order : TradeOrder) (gas : GasQuote)
  | refused (order : TradeOrder) (error : TradeError)
  | ended (outcome : Outcome)
deriving DecidableEq, Repr

structure Trader where
  base : Address
  passes : Nat
  minReceive : Word
  market : Market
  gas : GasQuote
  cooldown : Cooldown

namespace Trader

def start (base : Address) (passes : Nat) (minReceive : Word) : Trader :=
  ⟨base, passes, minReceive, Market.initial, GasQuote.initial, Cooldown.initial⟩

def strongestLoop (t : Trader) (now : Seconds) : Option PricedLoop × Trader :=
  let (live, market) := t.market.sweep now
  (PricedLoop.strongestIn t.base t.passes RateGraph.maxHops live, { t with market })

/-- The next step of an attempt. While the executor has the order, and at the
end, there is none. -/
def advance (t : Trader) (now : Moment) : Attempt → Except ClockError (Attempt × Trader)
  | .found path => .ok (.quoted path t.gas, t)
  | .quoted path gas =>
    match Sizing.sizeFor t.base t.minReceive path gas with
    | .profitable size => .ok (.sized path gas size, t)
    | .noProfitableSize _ => .ok (.ended .noProfitableSize, t)
    | .invalidPath => .ok (.ended .invalidPath, t)
  | .sized path gas size =>
    match t.cooldown.enter (pathKey (path.map Pair.address)) now with
    | .ok (true, cooldown) => .ok (.entered path gas size, { t with cooldown })
    | .ok (false, cooldown) => .ok (.ended .coolingDown, { t with cooldown })
    | .error e => .error e
  | .entered path gas size =>
    .ok (.handed ⟨t.base, size.amountIn, size.amountOut, path⟩ gas, t)
  | .refused order error =>
    match t.cooldown.noteFailure order.key now with
    | .ok (failures, cooldown) => .ok (.ended (.failed error failures), { t with cooldown })
    | .error e => .error e
  | a => .ok (a, t)

end Trader

def Attempt.answered (a : Attempt) (answer : Except TradeError TradeReport) : Attempt :=
  match a, answer with
  | .handed _ _, .ok report => .ended (.executed report)
  | .handed order _, .error e => .refused order e
  | a, _ => a

end SwapLoops
