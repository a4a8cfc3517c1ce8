import SwapLoops.Address
import SwapLoops.Position
import SwapLoops.Word

/-! The state of one constant-product pair. -/

namespace SwapLoops

inductive Protocol
  | uniswapV2
deriving DecidableEq, Repr

def Protocol.name : Protocol → String
  | .uniswapV2 => "Uniswap V2"

/-- Where each part of a state was written, for parts older than the state's own
provenance. Nothing is noted for a part that is absent or as new as the state. -/
structure Earlier where
  reserves : Option Position
  fee : Option Position
  status : Option Position
deriving DecidableEq, Repr

def Earlier.none : Earlier := ⟨.none, .none, .none⟩

def feeBase : UInt32 := 10000

def defaultFee : UInt32 := 30

structure Pair where
  protocol : Protocol
  address : Address
  token0 : Address
  token1 : Address
  reserve0 : Word
  reserve1 : Word
  fee : Option UInt32
  failed : Bool
  provenance : Provenance
  earlier : Earlier
deriving DecidableEq, Repr

namespace Pair

def isNamed (p : Pair) : Bool := p.address != 0

def knowsTokens (p : Pair) : Bool :=
  p.token0 != 0 && p.token1 != 0 && p.token0 != p.token1

def chargedFee (p : Pair) : UInt32 := p.fee.getD defaultFee

/-- A pair can be priced when its last read went well and it has known tokens,
liquidity on both sides and a fee below the whole amount. -/
def hasPrice (p : Pair) : Bool :=
  !p.failed && p.knowsTokens && p.reserve0 != 0 && p.reserve1 != 0 && p.chargedFee < feeBase

end Pair

end SwapLoops
