import SwapLoops.Address

/-! Tokens and the swaps between them, as a directed graph whose edges carry a
weight. Tokens stand in the order of their first appearance, edges in that of insertion. -/

namespace SwapLoops

/-- One direction of a pair. `index` is the place of the pair in the list that
the graph was built from. -/
structure RateEdge (W : Type) where
  index : Nat
  pair : Address
  source : Address
  target : Address
  zeroForOne : Bool
  weight : W
deriving DecidableEq, Repr

structure Quote (W : Type) where
  index : Nat
  pair : Address
  token0 : Address
  token1 : Address
  weight0 : W
  weight1 : W
deriving DecidableEq, Repr

namespace Quote

variable {W : Type}

def forward (q : Quote W) : RateEdge W := ⟨q.index, q.pair, q.token0, q.token1, true, q.weight0⟩

def backward (q : Quote W) : RateEdge W := ⟨q.index, q.pair, q.token1, q.token0, false, q.weight1⟩

end Quote

structure RateGraph (W : Type) where
  tokens : List Address
  edges : List (RateEdge W)
deriving Repr

namespace RateGraph

variable {W : Type}

def empty : RateGraph W := ⟨[], []⟩

def insertToken (tokens : List Address) (token : Address) : List Address :=
  if token ∈ tokens then tokens else tokens ++ [token]

def knows (g : RateGraph W) (token : Address) : Bool := token ∈ g.tokens

def insertEdge (g : RateGraph W) (e : RateEdge W) : RateGraph W :=
  ⟨insertToken (insertToken g.tokens e.source) e.target, g.edges ++ [e]⟩

def insertEdges (g : RateGraph W) (es : List (RateEdge W)) : RateGraph W :=
  es.foldl insertEdge g

def insertQuote (g : RateGraph W) (q : Quote W) : RateGraph W :=
  (g.insertEdge q.forward).insertEdge q.backward

def insertQuotes (g : RateGraph W) (qs : List (Quote W)) : RateGraph W :=
  qs.foldl insertQuote g

end RateGraph

end SwapLoops
