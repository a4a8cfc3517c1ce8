import Std.Data.ExtTreeMap
import SwapLoops.RateGraph

/-! The graph of tokens and swaps as it is stored: nodes that hold the tokens, arcs
between the numbers of nodes, and a map from tokens to these numbers. -/

namespace SwapLoops

structure Arc (W : Type) where
  source : Nat
  target : Nat
  edge : RateEdge W
deriving DecidableEq, Repr

structure NodeGraph (W : Type) where
  nodes : List Address
  numbers : Std.ExtTreeMap Address Nat
  arcs : List (Arc W)

namespace NodeGraph

variable {W : Type}

def empty : NodeGraph W := ⟨[], ∅, []⟩

def numberOf? (g : NodeGraph W) (token : Address) : Option Nat := g.numbers[token]?

/-- The number of the node of a token. A token without a node gets the next number. -/
def addNode (g : NodeGraph W) (token : Address) : NodeGraph W × Nat :=
  match g.numberOf? token with
  | some n => (g, n)
  | none =>
    let n := g.nodes.length
    ({ g with nodes := g.nodes ++ [token], numbers := g.numbers.insert token n }, n)

def addArc (g : NodeGraph W) (source target : Nat) (e : RateEdge W) : NodeGraph W :=
  { g with arcs := g.arcs ++ [⟨source, target, e⟩] }

def insertEdge (g : NodeGraph W) (e : RateEdge W) : NodeGraph W :=
  let (g, source) := g.addNode e.source
  let (g, target) := g.addNode e.target
  g.addArc source target e

def insertEdges (g : NodeGraph W) (es : List (RateEdge W)) : NodeGraph W :=
  es.foldl insertEdge g

def insertQuote (g : NodeGraph W) (q : Quote W) : NodeGraph W :=
  (g.insertEdge q.forward).insertEdge q.backward

def edges (g : NodeGraph W) : List (RateEdge W) := g.arcs.map Arc.edge

/-- The graph that is searched, where tokens stand for their nodes. -/
def rates (g : NodeGraph W) : RateGraph W := ⟨g.nodes, g.edges⟩

end NodeGraph

end SwapLoops
