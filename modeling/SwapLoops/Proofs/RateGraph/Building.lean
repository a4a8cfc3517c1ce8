import SwapLoops.PricedLoop
import SwapLoops.Proofs.RateGraph.Walks

/-! Which edges and tokens a graph has after pairs and single edges were added to it. -/

namespace SwapLoops

def Pair.isTakenBy (log : Float → Float) (p : Pair) : Bool :=
  p.hasPrice && (-log p.rate0to1).isFinite && (-log p.rate1to0).isFinite

namespace RateGraph

section Quotes

variable {W : Type} {g : RateGraph W} {base : Address} {e : RateEdge W}

def Placed (g : RateGraph W) : Prop := ∀ e ∈ g.edges, e.source ∈ g.tokens ∧ e.target ∈ g.tokens

theorem mem_insertToken {tokens : List Address} {token token' : Address} :
    token' ∈ insertToken tokens token ↔ token' ∈ tokens ∨ token' = token := by
  unfold insertToken
  split_ifs with present
  · exact ⟨Or.inl, fun member => member.elim id (· ▸ present)⟩
  · rw [List.mem_append, List.mem_singleton]

theorem mem_edges_insertEdge {e' : RateEdge W} :
    e' ∈ (g.insertEdge e).edges ↔ e' ∈ g.edges ∨ e' = e := by
  rw [insertEdge, List.mem_append, List.mem_singleton]

theorem Placed.insertEdge (placed : g.Placed) (e : RateEdge W) : (g.insertEdge e).Placed := by
  intro e' member
  simp only [RateGraph.insertEdge, mem_insertToken]
  rcases mem_edges_insertEdge.mp member with member | rfl
  · obtain ⟨source, target⟩ := placed e' member
    exact ⟨Or.inl (Or.inl source), Or.inl (Or.inl target)⟩
  · exact ⟨Or.inl (Or.inr rfl), Or.inr rfl⟩

theorem placed_insertQuotes (qs : List (Quote W)) : ((empty : RateGraph W).insertQuotes qs).Placed := by
  apply List.foldlRecOn (motive := Placed)
  · exact List.forall_mem_nil _
  · exact fun g placed q _ => (placed.insertEdge q.forward).insertEdge q.backward

theorem mem_edges_insertQuotes {qs : List (Quote W)} :
    e ∈ (g.insertQuotes qs).edges ↔ e ∈ g.edges ∨ ∃ q ∈ qs, e = q.forward ∨ e = q.backward := by
  induction qs generalizing g with
  | nil => simp [insertQuotes]
  | cons q qs ih =>
    have stepped := @ih (g.insertQuote q)
    rw [insertQuotes, List.foldl_cons]
    rw [insertQuotes] at stepped
    rw [stepped, insertQuote, mem_edges_insertEdge, mem_edges_insertEdge]
    simp only [List.mem_cons, exists_eq_or_imp, or_assoc]

theorem mem_edges_ofQuotes {qs : List (Quote W)} :
    e ∈ ((empty : RateGraph W).insertQuotes qs).edges ↔ ∃ q ∈ qs, e = q.forward ∨ e = q.backward := by
  rw [mem_edges_insertQuotes]
  exact or_iff_right List.not_mem_nil

theorem IsLoop.knows {hops : List (RateEdge W)} (found : g.IsLoop base hops) (placed : g.Placed)
    (apart : ∀ e ∈ g.edges, e.source ≠ e.target) : 2 ≤ g.tokens.length ∧ g.knows base = true := by
  obtain ⟨nonempty, walk, _⟩ := found
  cases hops with
  | nil => exact absurd rfl nonempty
  | cons e hops =>
    obtain ⟨member, rfl, _⟩ := walk
    obtain ⟨source, target⟩ := placed e member
    have both : [e.source, e.target] ⊆ g.tokens := by simp [source, target]
    have distinct : [e.source, e.target].Nodup := by simpa using apart e member
    exact ⟨(distinct.subperm both).length_le, decide_eq_true source⟩

theorem forall_mem_edges_ofQuotes {qs : List (Quote W)} {P : RateEdge W → Prop} :
    (∀ e ∈ ((empty : RateGraph W).insertQuotes qs).edges, P e) ↔
      ∀ q ∈ qs, P q.forward ∧ P q.backward := by
  constructor
  · intro each q quoted
    exact ⟨each _ (mem_edges_ofQuotes.mpr ⟨q, quoted, Or.inl rfl⟩),
      each _ (mem_edges_ofQuotes.mpr ⟨q, quoted, Or.inr rfl⟩)⟩
  · intro each e member
    obtain ⟨q, quoted, rfl | rfl⟩ := mem_edges_ofQuotes.mp member
    · exact (each q quoted).1
    · exact (each q quoted).2

theorem source_ne_target_ofQuotes {qs : List (Quote W)} (tokens : ∀ q ∈ qs, q.token0 ≠ q.token1) :
    ∀ e ∈ ((empty : RateGraph W).insertQuotes qs).edges, e.source ≠ e.target :=
  forall_mem_edges_ofQuotes.mpr fun q quoted => ⟨tokens q quoted, (tokens q quoted).symm⟩

theorem opposite_of_same_pair {qs : List (Quote W)} (distinct : (qs.map Quote.pair).Nodup)
    {e' : RateEdge W} (member : e ∈ ((empty : RateGraph W).insertQuotes qs).edges)
    (member' : e' ∈ ((empty : RateGraph W).insertQuotes qs).edges) (same : e.pair = e'.pair)
    (differ : e.source ≠ e'.source) :
    ∃ q ∈ qs, e = q.forward ∧ e' = q.backward ∨ e = q.backward ∧ e' = q.forward := by
  obtain ⟨q, quoted, side⟩ := mem_edges_ofQuotes.mp member
  obtain ⟨q', quoted', side'⟩ := mem_edges_ofQuotes.mp member'
  have here : e.pair = q.pair := by rcases side with rfl | rfl <;> rfl
  have here' : e'.pair = q'.pair := by rcases side' with rfl | rfl <;> rfl
  obtain rfl : q = q' :=
    List.inj_on_of_nodup_map distinct quoted quoted' (here.symm.trans (same.trans here'))
  refine ⟨q, quoted, ?_⟩
  rcases side with rfl | rfl <;> rcases side' with rfl | rfl
  · exact absurd rfl differ
  · exact Or.inl ⟨rfl, rfl⟩
  · exact Or.inr ⟨rfl, rfl⟩
  · exact absurd rfl differ

/-- A loop over quotes of distinct pairs meets a pair twice only if it goes there and back. -/
theorem IsLoop.nodup_or_back {qs : List (Quote W)} (distinct : (qs.map Quote.pair).Nodup)
    {hops : List (RateEdge W)} (found : ((empty : RateGraph W).insertQuotes qs).IsLoop base hops) :
    (hops.map RateEdge.pair).Nodup ∨
      ∃ q ∈ qs, hops = [q.forward, q.backward] ∨ hops = [q.backward, q.forward] := by
  by_cases pairs : (hops.map RateEdge.pair).Nodup
  · exact Or.inl pairs
  · obtain ⟨front, e, between, e', behind, rfl, same⟩ := exists_split_of_not_nodup_map pairs
    have sources := fresh_of_nodup_map found.simple
    have differ : e.source ≠ e'.source := fun again => sources (by simp [again])
    obtain ⟨q, quoted, sides⟩ := opposite_of_same_pair distinct
      (found.walk.mem_edges (by simp)) (found.walk.mem_edges (by simp)) same differ
    refine Or.inr ⟨q, quoted, ?_⟩
    rcases sides with ⟨rfl, rfl⟩ | ⟨rfl, rfl⟩
    · obtain ⟨rfl, rfl, rfl⟩ := found.eq_back_and_forth rfl rfl
      exact Or.inl rfl
    · obtain ⟨rfl, rfl, rfl⟩ := found.eq_back_and_forth rfl rfl
      exact Or.inr rfl

end Quotes

inductive Addition
  | pair (index : Nat) (p : Pair)
  | edge (e : RateEdge Float)

namespace Addition

def isPair : Addition → Bool
  | pair _ _ => true
  | edge _ => false

def apply (g : RateGraph Float) : Addition → RateGraph Float
  | pair index p => (g.insertPair index p).1
  | edge e => g.insertEdge e

end Addition

def ofAdditions (additions : List Addition) : RateGraph Float := additions.foldl Addition.apply empty

theorem tokens_ne_of_hasPrice {p : Pair} (priced : p.hasPrice = true) : p.token0 ≠ p.token1 := by
  simp only [Pair.hasPrice, Pair.knowsTokens, Bool.and_eq_true, bne_iff_ne] at priced
  exact priced.1.1.1.2.2

theorem tokens_ne_of_quote? {p : Pair} {index : Nat} {q : Quote Float}
    (priced : p.quote? index = some q) : q.token0 ≠ q.token1 := by
  unfold Pair.quote? at priced
  split_ifs at priced with finite
  cases priced
  rw [Bool.and_eq_true, Bool.and_eq_true] at finite
  exact tokens_ne_of_hasPrice finite.1.1

theorem source_ne_target_of_isPair {additions : List Addition}
    (pairs : ∀ a ∈ additions, a.isPair = true) :
    ∀ e ∈ (ofAdditions additions).edges, e.source ≠ e.target := by
  apply List.foldlRecOn
    (motive := fun g : RateGraph Float => ∀ e ∈ g.edges, e.source ≠ e.target) additions
  · exact List.forall_mem_nil _
  · intro g kept a member
    have pair := pairs a member
    cases a with
    | edge e => cases pair
    | pair index p =>
      simp only [Addition.apply, insertPair]
      split
      · next q priced =>
        have tokens := tokens_ne_of_quote? priced
        intro e member
        rw [insertQuote, mem_edges_insertEdge, mem_edges_insertEdge] at member
        rcases member with (member | rfl) | rfl
        · exact kept e member
        · exact tokens
        · exact tokens.symm
      · exact kept

end RateGraph

end SwapLoops
