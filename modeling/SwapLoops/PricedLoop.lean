import SwapLoops.PathKey
import SwapLoops.Pair.Rate
import SwapLoops.RateGraph.Nodes
import SwapLoops.RateGraph.Search

/-! From a list of pairs to the strongest loop through the base token: pairs that
can be priced become edges weighted by their rates, and the hops of a loop name
the pairs that it was priced on. -/

namespace SwapLoops

def Pair.quote? (p : Pair) (index : Nat) : Option (Quote Float) :=
  if p.hasPrice && p.weight0.isFinite && p.weight1.isFinite then
    some ⟨index, p.address, p.token0, p.token1, p.weight0, p.weight1⟩
  else none

namespace NodeGraph

def insertPair (g : NodeGraph Float) (index : Nat) (p : Pair) : NodeGraph Float × Bool :=
  match p.quote? index with
  | some q => (g.insertQuote q, true)
  | none => (g, false)

def ofPairs (pairs : List Pair) : NodeGraph Float :=
  pairs.zipIdx.foldl (fun g (p, index) => (g.insertPair index p).1) empty

end NodeGraph

namespace RateGraph

def insertPair (g : RateGraph Float) (index : Nat) (p : Pair) : RateGraph Float × Bool :=
  match p.quote? index with
  | some q => (g.insertQuote q, true)
  | none => (g, false)

def ofPairs (pairs : List Pair) : RateGraph Float :=
  pairs.zipIdx.foldl (fun g (p, index) => (g.insertPair index p).1) empty

/-- Improvements below this are noise of the floating point. -/
def noise : Float := 1e-9

def maxHops : Nat := 10

def defaultPasses : Nat := 5

def FoundLoop.growth (l : FoundLoop Float) : Float := (-l.totalWeight).exp

end RateGraph

def RateEdge.rate (e : RateEdge Float) : Float := (-e.weight).exp

/-- A loop with the pair states it was priced on, in trade order. -/
structure PricedLoop where
  pairs : List Pair
  tokens : List Address
  growth : Float

namespace PricedLoop

def key (l : PricedLoop) : String := pathKey (l.pairs.map Pair.address)

/-- The strongest loop through `base` that the search finds in a list of pairs. -/
def strongestIn (base : Address) (passes hops : Nat) (pairs : List Pair) :
    Option PricedLoop := do
  let found ← (NodeGraph.ofPairs pairs).rates.strongestLoop ⟨passes, hops, RateGraph.noise⟩ base
  let loopPairs ← found.hops.mapM fun e => pairs[e.index]?
  some ⟨loopPairs, found.tokens, found.growth⟩

end PricedLoop

end SwapLoops
