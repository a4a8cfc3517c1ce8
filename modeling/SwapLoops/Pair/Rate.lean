import SwapLoops.Double
import SwapLoops.Pair

/-! Spot rates net of the fee, and their negated logarithms as edge weights. -/

namespace SwapLoops

def rateAfterFee (reserveIn reserveOut : Word) (fee : UInt32) : Float :=
  let paid := Double.ofWord reserveIn
  let received := Double.ofWord reserveOut
  if paid ≤ 0 ∨ feeBase ≤ fee then 0
  else received / paid * ((feeBase - fee).toFloat / feeBase.toFloat)

namespace Pair

def rate0to1 (p : Pair) : Float := rateAfterFee p.reserve0 p.reserve1 p.chargedFee

def rate1to0 (p : Pair) : Float := rateAfterFee p.reserve1 p.reserve0 p.chargedFee

def weight0 (p : Pair) : Float := -p.rate0to1.log

def weight1 (p : Pair) : Float := -p.rate1to0.log

end Pair

end SwapLoops
