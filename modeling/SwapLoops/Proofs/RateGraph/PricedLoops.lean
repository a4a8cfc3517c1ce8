import SwapLoops.Proofs.RateGraph.Numbering
import SwapLoops.Sizing

/-! From a loop of the graph back to the list that it was priced on. Each edge names the place
of its pair, also behind pairs that cannot be priced. This does not depend on the logarithm
that the weights are made with. -/

namespace SwapLoops

variable {log : Float → Float} {base : Address} {passes hops : Nat} {pairs : List Pair}

def Pair.quoteBy? (log : Float → Float) (p : Pair) (index : Nat) : Option (Quote Float) :=
  if p.hasPrice && (-log p.rate0to1).isFinite && (-log p.rate1to0).isFinite then
    some ⟨index, p.address, p.token0, p.token1, -log p.rate0to1, -log p.rate1to0⟩
  else none

namespace RateGraph

def pricedBy (log : Float → Float) (pairs : List Pair) : RateGraph Float :=
  empty.insertQuotes (pairs.zipIdx.filterMap fun (p, index) => p.quoteBy? log index)

theorem ofPairs_eq (pairs : List Pair) : ofPairs pairs = pricedBy Float.log pairs := by
  rw [pricedBy, insertQuotes, List.foldl_filterMap, ofPairs]
  congr 1
  funext g placed
  obtain ⟨p, index⟩ := placed
  simp only [insertPair, show p.quote? index = p.quoteBy? Float.log index from rfl]
  cases p.quoteBy? Float.log index with
  | none => rfl
  | some q => rfl

end RateGraph

/-- The search for the strongest loop, with a logarithm that is given. -/
def PricedLoop.strongestBy (log : Float → Float) (base : Address) (passes hops : Nat)
    (pairs : List Pair) : Option PricedLoop := do
  let found ← (RateGraph.pricedBy log pairs).strongestLoop ⟨passes, hops, RateGraph.noise⟩ base
  let loopPairs ← found.hops.mapM fun e => pairs[e.index]?
  some ⟨loopPairs, found.tokens, found.growth⟩

theorem PricedLoop.strongestIn_eq (base : Address) (passes hops : Nat) (pairs : List Pair) :
    strongestIn base passes hops pairs = strongestBy Float.log base passes hops pairs := by
  rw [strongestIn, NodeGraph.rates_ofPairs, RateGraph.ofPairs_eq, strongestBy]

structure RateEdge.Prices (pairs : List Pair) (e : RateEdge Float) (p : Pair) : Prop where
  place : pairs[e.index]? = some p
  hasPrice : p.hasPrice = true
  apart : e.source ≠ e.target
  leads : p.otherToken? e.source = some e.target

namespace RateGraph

theorem exists_prices {e : RateEdge Float} (member : e ∈ (pricedBy log pairs).edges) :
    ∃ p, e.Prices pairs p := by
  obtain ⟨q, quoted, side⟩ := mem_edges_ofQuotes.mp member
  obtain ⟨⟨p, index⟩, placed, priced⟩ := List.mem_filterMap.mp quoted
  have place : pairs[index]? = some p := List.mem_zipIdx_iff_getElem?.mp placed
  simp only [Pair.quoteBy?] at priced
  split_ifs at priced with finite
  cases priced
  simp only [Bool.and_eq_true] at finite
  have apart := tokens_ne_of_hasPrice finite.1.1
  refine ⟨p, ?_⟩
  rcases side with rfl | rfl
  · exact ⟨place, finite.1.1, apart, by simp [Quote.forward, Pair.otherToken?, Pair.side?]⟩
  · exact ⟨place, finite.1.1, apart.symm,
      by simp [Quote.backward, Pair.otherToken?, Pair.side?, apart.symm]⟩

theorem forall₂_prices {edges : List (RateEdge Float)} {path : List Pair}
    (members : ∀ e ∈ edges, e ∈ (pricedBy log pairs).edges)
    (looked : edges.mapM (fun e => pairs[e.index]?) = some path) :
    List.Forall₂ (RateEdge.Prices pairs) edges path := by
  induction edges generalizing path with
  | nil =>
    cases looked
    exact .nil
  | cons e edges ih =>
    rw [List.mapM_cons] at looked
    obtain ⟨p, first, others⟩ := Option.bind_eq_some_iff.mp looked
    obtain ⟨rest, behind, done⟩ := Option.bind_eq_some_iff.mp others
    cases done
    obtain ⟨p', prices⟩ := exists_prices (members e List.mem_cons_self)
    obtain rfl := Option.some.inj (first.symm.trans prices.place)
    exact .cons prices (ih (fun e member => members e (List.mem_cons_of_mem _ member)) behind)

end RateGraph

theorem Pair.exists_swap? {p : Pair} {a b : Address} (leads : p.otherToken? a = some b)
    (amount : Word) : ∃ out, p.swap? a amount = some (b, out) := by
  obtain ⟨side, entered, rfl⟩ := Option.map_eq_some_iff.mp leads
  exact ⟨_, Option.map_eq_some_iff.mpr ⟨side, entered, rfl⟩⟩

section Loops

variable {l : PricedLoop}

/-- A loop that is found is a loop of the graph, with the pairs that its hops were priced on. -/
theorem PricedLoop.exists_isLoop (found : strongestBy log base passes hops pairs = some l) :
    ∃ edges, (RateGraph.pricedBy log pairs).IsLoop base edges ∧
      List.Forall₂ (RateEdge.Prices pairs) edges l.pairs ∧
      l.tokens = edges.map RateEdge.source ++ [base] := by
  obtain ⟨edges, searched, found⟩ := Option.bind_eq_some_iff.mp found
  obtain ⟨loopPairs, looked, done⟩ := Option.bind_eq_some_iff.mp found
  cases done
  obtain ⟨c, closing, front, whole, trail, _⟩ := RateGraph.exists_trail_of_strongestLoop searched
  obtain ⟨member, target, _⟩ := RateGraph.mem_closings.mp closing
  have isLoop : (RateGraph.pricedBy log pairs).IsLoop base edges.hops := by
    rw [whole]
    exact trail.isLoop (RateGraph.sound_labelled _ _ base) member target
  refine ⟨edges.hops, isLoop, ?_, ?_⟩
  · exact RateGraph.forall₂_prices (fun e => isLoop.walk.mem_edges) looked
  · rw [RateGraph.FoundLoop.tokens, whole, List.getLast?_concat]
    rw [Option.map_some, target]
    rfl

theorem heldAfter?_of_isWalk {g : RateGraph Float} {a b : Address} {edges : List (RateEdge Float)}
    {path : List Pair} (walk : g.IsWalk a edges b)
    (prices : List.Forall₂ (RateEdge.Prices pairs) edges path) : heldAfter? path a = some b := by
  induction prices generalizing a with
  | nil => exact congrArg some walk
  | cons first _ ih =>
    obtain ⟨_, rfl, walk⟩ := walk
    rw [heldAfter?, List.foldlM_cons, first.leads]
    exact ih walk

/-- The pairs of a loop that is found take each of its tokens to the next one, from the base
back to the base. -/
structure PricedLoop.Chains (l : PricedLoop) (base : Address) (pairs : List Pair) : Prop where
  usable : ∀ p ∈ l.pairs, p ∈ pairs ∧ p.hasPrice = true
  two_le : 2 ≤ l.pairs.length
  length_tokens : l.tokens.length = l.pairs.length + 1
  first : l.tokens.head? = some base
  last : l.tokens.getLast? = some base
  swaps : ∀ i p amount, l.pairs[i]? = some p →
    ∃ a b out, l.tokens[i]? = some a ∧ l.tokens[i + 1]? = some b ∧ p.swap? a amount = some (b, out)

theorem PricedLoop.chains_of_strongestBy (found : strongestBy log base passes hops pairs = some l) :
    l.Chains base pairs ∧ ReturnsTo base l.pairs := by
  obtain ⟨edges, isLoop, prices, tokens⟩ := exists_isLoop found
  have length := prices.length_eq
  have exists_edge {i : Nat} {p : Pair} (here : l.pairs[i]? = some p) :
      ∃ e, edges[i]? = some e ∧ e.Prices pairs p := by
    obtain ⟨bound, rfl⟩ := List.getElem?_eq_some_iff.mp here
    exact ⟨_, List.getElem?_eq_getElem (length.symm ▸ bound), prices.get _ bound⟩
  have two : 2 ≤ l.pairs.length := length ▸ isLoop.two_le_length fun e member =>
    (RateGraph.exists_prices member).elim fun _ prices => prices.apart
  refine ⟨⟨?_, two, ?_, ?_, ?_, ?_⟩, ?_, heldAfter?_of_isWalk isLoop.walk prices⟩
  · intro p member
    obtain ⟨i, here⟩ := List.mem_iff_getElem?.mp member
    obtain ⟨e, _, prices⟩ := exists_edge here
    exact ⟨List.mem_of_getElem? prices.place, prices.hasPrice⟩
  · rw [tokens, List.length_append, List.length_map, length, List.length_singleton]
  · rw [tokens, isLoop.walk.tokens]
    rfl
  · rw [tokens]
    exact List.getLast?_concat
  · intro i p amount here
    obtain ⟨e, edge, prices⟩ := exists_edge here
    obtain ⟨out, swap⟩ := Pair.exists_swap? prices.leads amount
    refine ⟨e.source, e.target, out, ?_, ?_, swap⟩
    · rw [tokens, List.getElem?_append_left, List.getElem?_map, edge]
      · rfl
      · rw [List.length_map]
        exact (List.getElem?_eq_some_iff.mp edge).1
    · rw [tokens, isLoop.walk.tokens, List.getElem?_cons_succ, List.getElem?_map, edge]
      rfl
  · exact List.ne_nil_of_length_pos (Nat.lt_of_lt_of_le Nat.two_pos two)

end Loops

end SwapLoops
