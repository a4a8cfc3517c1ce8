import Std.Data.ExtTreeMap
import SwapLoops.RateGraph

/-! The search for a loop of negative weight through a base token. Distances
from the base are relaxed for a bounded number of passes. An edge back into the
base then closes a loop if it takes the distance below zero, and following the
labels back from it gives the hops. The base itself stays at distance zero. -/

namespace SwapLoops.RateGraph

variable {W : Type}

/-- How far a token is from the base, and the edge it was reached by. -/
structure Label (W : Type) where
  distance : W
  via : Option (RateEdge W)

abbrev Labels (W : Type) := Std.ExtTreeMap Address (Label W)

/-- Limits of a search. No passes at all stand for one less than there are
tokens; an improvement smaller than `epsilon` is noise. -/
structure Limits (W : Type) where
  passes : Nat
  hops : Nat
  epsilon : W

/-- Hops in trade order: the first leaves the base and the last comes back. -/
structure FoundLoop (W : Type) where
  hops : List (RateEdge W)
  totalWeight : W

namespace FoundLoop

def pairs (l : FoundLoop W) : List Address := l.hops.map RateEdge.pair

def tokens (l : FoundLoop W) : List Address :=
  l.hops.map RateEdge.source ++ (l.hops.getLast?.map RateEdge.target).toList

end FoundLoop

variable [Zero W] [Add W] [Sub W] [Neg W] [LT W] [DecidableLT W]

def start (base : Address) : Labels W := (∅ : Labels W).insert base ⟨0, none⟩

def improves (epsilon candidate : W) : Option (Label W) → Bool
  | none => true
  | some l => candidate < l.distance - epsilon

/-- Relaxes one edge, and notes whether any label changed so far. -/
def relaxEdge (base : Address) (epsilon : W) (state : Labels W × Bool) (e : RateEdge W) :
    Labels W × Bool :=
  if e.target = base then state
  else
    match state.1[e.source]? with
    | none => state
    | some l =>
      let candidate := l.distance + e.weight
      if improves epsilon candidate state.1[e.target]? then
        (state.1.insert e.target ⟨candidate, some e⟩, true)
      else state

def relaxPass (base : Address) (epsilon : W) (edges : List (RateEdge W)) (labels : Labels W) :
    Labels W × Bool :=
  edges.foldl (relaxEdge base epsilon) (labels, false)

/-- Passes over all edges, until one of them changes nothing. -/
def relax (base : Address) (epsilon : W) (edges : List (RateEdge W)) :
    Nat → Labels W → Labels W
  | 0, labels => labels
  | n + 1, labels =>
    let (labels, changed) := relaxPass base epsilon edges labels
    if changed then relax base epsilon edges n labels else labels

def passCount (g : RateGraph W) (limits : Limits W) : Nat :=
  if limits.passes = 0 then g.tokens.length - 1 else limits.passes

def labelled (g : RateGraph W) (limits : Limits W) (base : Address) : Labels W :=
  relax base limits.epsilon g.edges (g.passCount limits) (start base)

/-- Edges that close a loop of negative weight, with that weight. The most
negative comes first, and of equal ones the edge added last. -/
def closings (g : RateGraph W) (limits : Limits W) (base : Address) (labels : Labels W) :
    List (W × RateEdge W) :=
  let candidates := g.edges.reverse.filterMap fun e =>
    if e.target = base then
      match labels[e.source]? with
      | some l =>
        let closing := l.distance + e.weight
        if closing < -limits.epsilon then some (closing, e) else none
      | none => none
    else none
  candidates.mergeSort fun a b => !decide (b.1 < a.1)

/-- Follows the labels from an edge back to the base, with the hops found so far
behind it. Gives up on a pair or a token met before. -/
def traceBack (base : Address) (labels : Labels W) :
    Nat → RateEdge W → List (RateEdge W) → Option (List (RateEdge W))
  | 0, _, _ => none
  | n + 1, e, hops =>
    if hops.any (·.pair = e.pair) then none
    else if e.source = base then some (e :: hops)
    else if hops.any (·.source = e.source) then none
    else
      match labels[e.source]?.bind Label.via with
      | some previous => traceBack base labels n previous (e :: hops)
      | none => none

def totalWeight (hops : List (RateEdge W)) : W := (hops.map RateEdge.weight).foldl (· + ·) 0

def strongestLoop (g : RateGraph W) (limits : Limits W) (base : Address) : Option (FoundLoop W) :=
  if g.tokens.length < 2 ∨ !g.knows base then none
  else
    let labels := g.labelled limits base
    (g.closings limits base labels).findSome? fun (_, e) =>
      (traceBack base labels limits.hops e []).map fun hops => ⟨hops, totalWeight hops⟩

end SwapLoops.RateGraph
