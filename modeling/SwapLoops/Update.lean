import SwapLoops.Fee

/-! Changes to a pair as event and read feeds report them, and the state that
each proposes. What an update does not carry is left empty, to be filled from
the state it is joined with. -/

namespace SwapLoops

inductive Update
  | sync (pair : Address) (reserve0 reserve1 : Word) (fee : Option UInt32)
      (provenance : Provenance)
  | snapshot (pair token0 token1 : Address) (reserve0 reserve1 : Word) (fee : Option UInt32)
      (provenance : Provenance)
  | readFailed (pair : Address) (provenance : Provenance)
  | restored (state : Pair)
deriving DecidableEq, Repr

namespace Update

def address : Update → Address
  | sync pair .. => pair
  | snapshot pair .. => pair
  | readFailed pair _ => pair
  | restored state => state.address

def toPair : Update → Pair
  | sync pair reserve0 reserve1 fee provenance =>
    ⟨.uniswapV2, pair, 0, 0, reserve0, reserve1, fee, false, provenance, .none⟩
  | snapshot pair token0 token1 reserve0 reserve1 fee provenance =>
    ⟨.uniswapV2, pair, token0, token1, reserve0, reserve1, fee, false, provenance, .none⟩
  | readFailed pair provenance =>
    ⟨.uniswapV2, pair, 0, 0, 0, 0, none, true, provenance, .none⟩
  | restored state => state

def ofSync (e : SyncEvent) : Update := sync e.pair e.reserve0 e.reserve1 none e.provenance

def fee? : Update → Option UInt32
  | sync _ _ _ fee _ => fee
  | snapshot _ _ _ _ _ fee _ => fee
  | readFailed .. => none
  | restored state => state.fee

/-- Gives an update of the reserves the inferred fee of its pair, unless it has one. -/
def withFee (fees : Fee.Table) : Update → Update
  | sync pair reserve0 reserve1 fee provenance =>
    sync pair reserve0 reserve1 (fee <|> fees[pair]?) provenance
  | snapshot pair token0 token1 reserve0 reserve1 fee provenance =>
    snapshot pair token0 token1 reserve0 reserve1 (fee <|> fees[pair]?) provenance
  | update => update

end Update

end SwapLoops
