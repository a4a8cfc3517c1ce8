import SwapLoops.PathKey
import SwapLoops.Sizing
import SwapLoops.Word.Text

/-! Trades that are sized and ready, the last check before one is sent, and what
comes of it. -/

namespace SwapLoops

structure TradeOrder where
  base : Address
  amountIn : Word
  expectedOut : Word
  path : List Pair
deriving DecidableEq, Repr

def TradeOrder.key (o : TradeOrder) : String := pathKey (o.path.map Pair.address)

structure TradeReport where
  amountIn : Word
  amountOut : Word
  gasPrice : GasPrice
  simulated : Bool
deriving DecidableEq, Repr

inductive TradeError
  | unprofitable (amountIn amountOut estimatedFee : Word)
  | invalidPath
  | rejected (reason : String)
  | timeout
deriving DecidableEq, Repr

def TradeError.message : TradeError → String
  | .unprofitable amountIn amountOut fee =>
    "final check failed: amount in " ++ amountIn.text ++ ", amount out " ++ amountOut.text ++
      ", estimated fee " ++ fee.text
  | .invalidPath => "trade path does not start and end at the base token"
  | .rejected reason => "trade rejected: " ++ reason
  | .timeout => "executor timed out"

def feeMultiplePercent : Word := 120

/-- Swaps once more and asks for a profit of 1.2 times the gas fee. -/
def recheck (base : Address) (amountIn : Word) (path : List Pair) (gas : GasQuote) :
    Except TradeError Word :=
  let out := pathOutput base amountIn path
  if out = 0 then .error .invalidPath
  else
    let fee := gas.cost path.length
    if (out.satSub amountIn).satMul 100 < fee.satMul feeMultiplePercent then
      .error (.unprofitable amountIn out fee)
    else .ok out

def rehearse (order : TradeOrder) (path : List Pair) (gas : GasQuote) :
    Except TradeError TradeReport :=
  match recheck order.base order.amountIn path gas with
  | .ok out => .ok ⟨order.amountIn, out, gas.bid, true⟩
  | .error e => .error e

end SwapLoops
