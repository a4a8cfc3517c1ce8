import SwapLoops.Proofs.RateGraph.FoundLoops

/-! A graph is stored with numbered nodes and a map from tokens to these numbers, which an insertion
updates in steps of their own. They agree after any additions, and so the search may go by tokens. -/

namespace SwapLoops

def tokensOf {W : Type} (es : List (RateEdge W)) : Set Address :=
  {token | ∃ e ∈ es, token = e.source ∨ token = e.target}

theorem mem_tokensOf_append_singleton {W : Type} {es : List (RateEdge W)} {e : RateEdge W}
    {token : Address} : token ∈ tokensOf (es ++ [e]) ↔
      (token ∈ tokensOf es ∨ token = e.source) ∨ token = e.target := by
  simp [tokensOf, or_and_right, exists_or, or_assoc]

namespace NodeGraph

section Numbering

variable {W : Type} {g : NodeGraph W} {es : List (RateEdge W)} {e : RateEdge W}
  {token token' : Address} {n : Nat}

def Numbered (g : NodeGraph W) : Prop :=
  ∀ token n, g.numberOf? token = some n ↔ g.nodes[n]? = some token

theorem numbered_empty : (empty : NodeGraph W).Numbered := by
  intro token n
  simp [empty, numberOf?]

theorem Numbered.mem_nodes_iff (numbered : g.Numbered) :
    token ∈ g.nodes ↔ ∃ n, g.numberOf? token = some n := by
  simp only [numbered token, List.mem_iff_getElem?]

theorem Numbered.not_mem_nodes_iff (numbered : g.Numbered) :
    token ∉ g.nodes ↔ g.numberOf? token = none := by
  rw [numbered.mem_nodes_iff, ← Option.isSome_iff_exists, Option.not_isSome_iff_eq_none]

theorem addNode_of_known (known : g.numberOf? token = some n) : g.addNode token = (g, n) := by
  rw [addNode, known]

theorem addNode_of_new (new : g.numberOf? token = none) :
    g.addNode token = (⟨g.nodes ++ [token], g.numbers.insert token g.nodes.length, g.arcs⟩,
      g.nodes.length) := by
  rw [addNode, new]

theorem arcs_addNode (g : NodeGraph W) (token : Address) : (g.addNode token).1.arcs = g.arcs := by
  unfold addNode
  split
  · rfl
  · rfl

theorem numberOf?_addNode (g : NodeGraph W) (token token' : Address) :
    (g.addNode token).1.numberOf? token' =
      if token = token' then some (g.addNode token).2 else g.numberOf? token' := by
  cases found : g.numberOf? token with
  | some n =>
    rw [addNode_of_known found]
    split_ifs with same
    · exact same ▸ found
    · rfl
  | none =>
    rw [addNode_of_new found, numberOf?, Std.ExtTreeMap.getElem?_insert]
    simp only [Std.LawfulEqCmp.compare_eq_iff_eq]
    rfl

theorem numberOf?_addNode_self (g : NodeGraph W) (token : Address) :
    (g.addNode token).1.numberOf? token = some (g.addNode token).2 := by
  rw [numberOf?_addNode, if_pos rfl]

theorem numberOf?_addNode_of_known (known : g.numberOf? token' = some n) :
    (g.addNode token).1.numberOf? token' = some n := by
  rw [numberOf?_addNode]
  split_ifs with same
  · subst same
    rw [addNode_of_known known]
  · exact known

theorem Numbered.nodes_addNode (numbered : g.Numbered) (token : Address) :
    (g.addNode token).1.nodes = RateGraph.insertToken g.nodes token := by
  unfold RateGraph.insertToken
  cases found : g.numberOf? token with
  | some n => rw [addNode_of_known found, if_pos (numbered.mem_nodes_iff.mpr ⟨n, found⟩)]
  | none => rw [addNode_of_new found, if_neg (numbered.not_mem_nodes_iff.mpr found)]

theorem Numbered.addNode (numbered : g.Numbered) (token : Address) :
    (g.addNode token).1.Numbered := by
  cases found : g.numberOf? token with
  | some n =>
    rw [addNode_of_known found]
    exact numbered
  | none =>
    intro token' n
    have held : (g.nodes ++ [token])[n]? = some token' ↔
        g.nodes[n]? = some token' ∨ g.nodes.length = n ∧ token = token' := by grind
    rw [numberOf?_addNode, addNode_of_new found, held, ← numbered token' n]
    by_cases same : token = token'
    · -- the new token stands behind the others and not among them
      subst same
      simp [found]
    · simp [same]

theorem insertEdge_eq (g : NodeGraph W) (e : RateEdge W) :
    g.insertEdge e = ((g.addNode e.source).1.addNode e.target).1.addArc
      (g.addNode e.source).2 ((g.addNode e.source).1.addNode e.target).2 e := rfl

theorem Numbered.insertEdge (numbered : g.Numbered) (e : RateEdge W) : (g.insertEdge e).Numbered :=
  (numbered.addNode e.source).addNode e.target

theorem Numbered.nodes_insertEdge (numbered : g.Numbered) (e : RateEdge W) :
    (g.insertEdge e).nodes =
      RateGraph.insertToken (RateGraph.insertToken g.nodes e.source) e.target := by
  rw [← numbered.nodes_addNode, ← (numbered.addNode e.source).nodes_addNode]
  rfl

theorem arcs_insertEdge (g : NodeGraph W) (e : RateEdge W) :
    (g.insertEdge e).arcs = g.arcs ++ [⟨(g.addNode e.source).2,
      ((g.addNode e.source).1.addNode e.target).2, e⟩] := by
  rw [insertEdge_eq, addArc, arcs_addNode, arcs_addNode]

theorem edges_insertEdge (g : NodeGraph W) (e : RateEdge W) :
    (g.insertEdge e).edges = g.edges ++ [e] := by
  rw [edges, arcs_insertEdge, List.map_append]
  rfl

structure Joins (g : NodeGraph W) (a : Arc W) : Prop where
  source : g.numberOf? a.edge.source = some a.source
  target : g.numberOf? a.edge.target = some a.target

theorem Joins.insertEdge {a : Arc W} (joins : g.Joins a) (e : RateEdge W) :
    (g.insertEdge e).Joins a :=
  ⟨numberOf?_addNode_of_known (numberOf?_addNode_of_known joins.source),
    numberOf?_addNode_of_known (numberOf?_addNode_of_known joins.target)⟩

theorem joins_insertEdge (g : NodeGraph W) (e : RateEdge W) :
    (g.insertEdge e).Joins ⟨(g.addNode e.source).2,
      ((g.addNode e.source).1.addNode e.target).2, e⟩ :=
  ⟨numberOf?_addNode_of_known (numberOf?_addNode_self g e.source),
    numberOf?_addNode_self (g.addNode e.source).1 e.target⟩

/-- The graph holds these edges in this order, and a node for each of their tokens. -/
structure Holds (g : NodeGraph W) (es : List (RateEdge W)) : Prop where
  numbered : g.Numbered
  mem_nodes_iff : ∀ token, token ∈ g.nodes ↔ token ∈ tokensOf es
  edges_eq : g.edges = es
  joins : ∀ a ∈ g.arcs, g.Joins a

theorem holds_empty : (empty : NodeGraph W).Holds [] where
  numbered := numbered_empty
  mem_nodes_iff := by simp [empty, tokensOf]
  edges_eq := rfl
  joins := List.forall_mem_nil _

theorem Holds.insertEdge (holds : g.Holds es) (e : RateEdge W) :
    (g.insertEdge e).Holds (es ++ [e]) where
  numbered := holds.numbered.insertEdge e
  mem_nodes_iff token := by
    rw [holds.numbered.nodes_insertEdge, RateGraph.mem_insertToken, RateGraph.mem_insertToken,
      holds.mem_nodes_iff, mem_tokensOf_append_singleton]
  edges_eq := by rw [edges_insertEdge, holds.edges_eq]
  joins a member := by
    rw [arcs_insertEdge, List.mem_append, List.mem_singleton] at member
    rcases member with member | rfl
    · exact (holds.joins a member).insertEdge e
    · exact joins_insertEdge g e

theorem Holds.insertEdges (holds : g.Holds es) (es' : List (RateEdge W)) :
    (g.insertEdges es').Holds (es ++ es') := by
  induction es' generalizing g es with
  | nil =>
    rw [List.append_nil]
    exact holds
  | cons e es' ih =>
    rw [← List.singleton_append, ← List.append_assoc]
    exact ih (holds.insertEdge e)

theorem Holds.exists_bijective (holds : g.Holds es) :
    ∃ number : tokensOf es → Fin g.nodes.length, Function.Bijective number ∧
      (∀ token, g.nodes[number token] = token) ∧
      ∀ token n, g.numberOf? token = some n ↔ ∃ seen, (number ⟨token, seen⟩ : Nat) = n := by
  have placed : ∀ token : tokensOf es, ∃ n : Fin g.nodes.length, g.nodes[n] = token := fun token =>
    List.mem_iff_get.mp ((holds.mem_nodes_iff token).mpr token.2)
  choose number nodes_number using placed
  have known : ∀ n : Fin g.nodes.length, g.numberOf? g.nodes[n] = some n := fun n =>
    (holds.numbered _ _).mpr (List.getElem?_eq_getElem n.2)
  have numbers : ∀ token : tokensOf es, g.numberOf? token = some (number token) := fun token =>
    nodes_number token ▸ known (number token)
  refine ⟨number, ⟨?_, ?_⟩, nodes_number, ?_⟩
  · intro token token' same
    rw [Subtype.ext_iff, ← nodes_number, ← nodes_number, same]
  · intro n
    have seen : g.nodes[n] ∈ tokensOf es := (holds.mem_nodes_iff _).mp (List.getElem_mem n.2)
    have same := (numbers ⟨g.nodes[n], seen⟩).symm.trans (known n)
    exact ⟨⟨g.nodes[n], seen⟩, Fin.ext (Option.some.inj same)⟩
  · intro token n
    constructor
    · intro found
      have seen : token ∈ tokensOf es :=
        (holds.mem_nodes_iff token).mp (holds.numbered.mem_nodes_iff.mpr ⟨n, found⟩)
      exact ⟨seen, Option.some.inj ((numbers ⟨token, seen⟩).symm.trans found)⟩
    · rintro ⟨seen, rfl⟩
      exact numbers ⟨token, seen⟩

theorem Numbered.rates_insertEdge (numbered : g.Numbered) (e : RateEdge W) :
    (g.insertEdge e).rates = g.rates.insertEdge e := by
  rw [rates, numbered.nodes_insertEdge, edges_insertEdge]
  rfl

end Numbering

end NodeGraph

def Pair.directions (p : Pair) (index : Nat) : List (RateEdge Float) :=
  [⟨index, p.address, p.token0, p.token1, true, p.weight0⟩,
    ⟨index, p.address, p.token1, p.token0, false, p.weight1⟩]

def RateGraph.Addition.edges : Addition → List (RateEdge Float)
  | pair index p => if p.isTakenBy Float.log then p.directions index else []
  | edge e => [e]

namespace NodeGraph

open RateGraph (Addition)

def add (g : NodeGraph Float) : Addition → NodeGraph Float
  | .pair index p => (g.insertPair index p).1
  | .edge e => g.insertEdge e

def ofAdditions (additions : List Addition) : NodeGraph Float := additions.foldl add empty

theorem insertPair_eq (g : NodeGraph Float) (index : Nat) (p : Pair) :
    g.insertPair index p =
      if p.isTakenBy Float.log then (g.insertEdges (p.directions index), true) else (g, false) := by
  rw [insertPair, Pair.quote?, show (p.hasPrice && p.weight0.isFinite && p.weight1.isFinite) =
    p.isTakenBy Float.log from rfl]
  split_ifs
  · rfl
  · rfl

theorem add_eq (g : NodeGraph Float) (a : Addition) : g.add a = g.insertEdges a.edges := by
  cases a with
  | edge e => rfl
  | pair index p =>
    rw [add, insertPair_eq, Addition.edges]
    split_ifs
    · rfl
    · rfl

theorem Numbered.rates_add {g : NodeGraph Float} (numbered : g.Numbered) (a : Addition) :
    (g.add a).rates = a.apply g.rates := by
  cases a with
  | edge e => exact numbered.rates_insertEdge e
  | pair index p =>
    rw [NodeGraph.add, insertPair, Addition.apply, RateGraph.insertPair]
    cases p.quote? index with
    | none => rfl
    | some q =>
      show ((g.insertEdge q.forward).insertEdge q.backward).rates = _
      rw [(numbered.insertEdge q.forward).rates_insertEdge, numbered.rates_insertEdge]
      rfl

theorem holds_ofAdditions (additions : List Addition) :
    (ofAdditions additions).Holds (additions.flatMap Addition.edges) := by
  have inserted : ofAdditions additions = empty.insertEdges (additions.flatMap Addition.edges) := by
    rw [insertEdges, List.foldl_flatMap, ofAdditions]
    congr 1
    funext g a
    exact add_eq g a
  rw [inserted]
  exact holds_empty.insertEdges _

theorem ofPairs_eq_ofAdditions (pairs : List Pair) :
    ofPairs pairs = ofAdditions (pairs.zipIdx.map fun (p, index) => .pair index p) := by
  rw [ofAdditions, List.foldl_map]
  rfl

theorem rates_ofAdditions (additions : List Addition) :
    (ofAdditions additions).rates = RateGraph.ofAdditions additions := by
  induction additions using List.reverseRecOn with
  | nil => rfl
  | append_singleton additions a ih =>
    have numbered := (holds_ofAdditions additions).numbered
    rw [ofAdditions, RateGraph.ofAdditions, List.foldl_concat, List.foldl_concat]
    exact (numbered.rates_add a).trans (congrArg (Addition.apply · a) ih)

theorem rates_ofPairs (pairs : List Pair) : (ofPairs pairs).rates = RateGraph.ofPairs pairs := by
  rw [ofPairs_eq_ofAdditions, rates_ofAdditions, RateGraph.ofAdditions, List.foldl_map]
  rfl

/-- After any additions the map takes the tokens of the edges one to one to the nodes that hold
them, and each arc joins the nodes of its edge's tokens, in the order of the insertions. A list of
pairs is added pair by pair, with both directions of each that is taken. Another pair changes
nothing. -/
theorem additions_keep_numbering (additions : List Addition) (pairs : List Pair) :
    (∃ number : tokensOf (additions.flatMap Addition.edges) →
        Fin (ofAdditions additions).nodes.length,
      Function.Bijective number ∧
      (∀ token, (ofAdditions additions).nodes[number token] = token) ∧
      ∀ token n, (ofAdditions additions).numberOf? token = some n ↔
        ∃ seen, (number ⟨token, seen⟩ : Nat) = n) ∧
    (ofAdditions additions).edges = additions.flatMap Addition.edges ∧
    (∀ a ∈ (ofAdditions additions).arcs, (ofAdditions additions).Joins a) ∧
    ofPairs pairs = ofAdditions (pairs.zipIdx.map fun (p, index) => .pair index p) ∧
    (ofPairs pairs).edges = pairs.zipIdx.flatMap (fun (p, index) =>
      if p.isTakenBy Float.log then p.directions index else []) ∧
    ∀ (g : NodeGraph Float) (index : Nat) (p : Pair), g.insertPair index p =
      if p.isTakenBy Float.log then (g.insertEdges (p.directions index), true) else (g, false) := by
  have holds := holds_ofAdditions additions
  refine ⟨holds.exists_bijective, holds.edges_eq, holds.joins, ofPairs_eq_ofAdditions pairs, ?_,
    insertPair_eq⟩
  rw [ofPairs_eq_ofAdditions, (holds_ofAdditions _).edges_eq, List.flatMap_map]
  rfl

/-- Tokens that return, an edge from a token to itself and a pair that is not taken. -/
theorem sampleAdditions_are_numbered :
    (ofAdditions RateGraph.sampleAdditions).nodes = [1, 2, 3, 4] ∧
    (ofAdditions RateGraph.sampleAdditions).arcs.map (fun a => (a.source, a.target)) =
      [(0, 1), (1, 2), (1, 3), (3, 3), (2, 0)] ∧
    ∀ a ∈ (ofAdditions RateGraph.sampleAdditions).arcs,
      (ofAdditions RateGraph.sampleAdditions).Joins a :=
  ⟨by decide +kernel, by decide +kernel,
    (additions_keep_numbering RateGraph.sampleAdditions []).2.2.1⟩

end NodeGraph

end SwapLoops
