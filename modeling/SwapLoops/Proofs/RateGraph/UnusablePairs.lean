import SwapLoops.Proofs.RateGraph.PricedLoops
import SwapLoops.Proofs.RateGraph.Reindexing
import SwapLoops.Proofs.Sizing.SpotRates

/-! A pair that the graph does not take has no influence on the loop that is found. It moves the
places of the pairs behind it, in the edges as in the list where they are looked up. -/

namespace SwapLoops

section Places

variable {α : Type} {keeps : α → Bool}

/-- The place in a list of the member that is at a place among those that are kept. -/
def keptPlace (keeps : α → Bool) : List α → Nat → Nat
  | [], i => i
  | x :: xs, i =>
    match keeps x, i with
    | true, 0 => 0
    | true, i + 1 => keptPlace keeps xs i + 1
    | false, i => keptPlace keeps xs i + 1

theorem getElem?_keptPlace (xs : List α) (i : Nat) :
    xs[keptPlace keeps xs i]? = (xs.filter keeps)[i]? := by
  induction xs generalizing i with
  | nil => rfl
  | cons x xs ih =>
    cases kept : keeps x with
    | true =>
      cases i with
      | zero => simp [keptPlace, kept]
      | succ i => simpa [keptPlace, kept] using ih i
    | false => simpa [keptPlace, kept] using ih i

theorem filter_zipIdx (xs : List α) :
    xs.zipIdx.filter (keeps ∘ Prod.fst) =
      (xs.filter keeps).zipIdx.map (Prod.map id (keptPlace keeps xs)) := by
  induction xs with
  | nil => rfl
  | cons x xs ih =>
    -- behind the first member all places, kept or not, are one further on
    have behind : (xs.zipIdx 1).filter (keeps ∘ Prod.fst) =
        (xs.filter keeps).zipIdx.map (Prod.map id (keptPlace keeps xs · + 1)) := by
      rw [List.zipIdx_succ, List.filter_map]
      exact (congrArg (List.map _) ih).trans List.map_map
    rw [List.zipIdx_cons, List.filter_cons, behind, Function.comp_apply]
    cases kept : keeps x with
    | true =>
      rw [if_pos rfl, List.filter_cons_of_pos kept, List.zipIdx_cons, List.zipIdx_succ, List.map_cons,
        List.map_map]
      simp [keptPlace, kept]
    | false =>
      rw [if_neg Bool.false_ne_true, List.filter_cons_of_neg (by simp [kept])]
      simp [keptPlace, kept]

end Places

namespace Pair

variable {log : Float → Float} {p : Pair}

theorem isSome_quoteBy? (p : Pair) (index : Nat) :
    (p.quoteBy? log index).isSome = p.isTakenBy log := by
  rw [isTakenBy, quoteBy?]
  split_ifs with taken
  · exact taken.symm
  · exact (Bool.eq_false_iff.mpr taken).symm

theorem quoteBy?_place (place : Nat → Nat) (p : Pair) (index : Nat) :
    p.quoteBy? log (place index) = (p.quoteBy? log index).map (Quote.reindex place) := by
  unfold quoteBy?
  split_ifs
  · rfl
  · rfl

theorem snd_insertPair (g : RateGraph Float) (index : Nat) (p : Pair) :
    (g.insertPair index p).2 = p.isTakenBy Float.log := by
  rw [← isSome_quoteBy? p index, RateGraph.insertPair,
    show p.quote? index = p.quoteBy? Float.log index from rfl]
  cases p.quoteBy? Float.log index with
  | none => rfl
  | some q => rfl

theorem isTakenBy_of_unusable (unusable : p.failed = true ∨ p.knowsTokens = false ∨
    p.reserve0 = 0 ∨ p.reserve1 = 0 ∨ feeBase ≤ p.chargedFee) : p.isTakenBy log = false := by
  have unpriced : p.hasPrice = false := by
    rw [Bool.eq_false_iff, ne_eq, hasPrice]
    simp only [Bool.and_eq_true, Bool.not_eq_true', bne_iff_ne, decide_eq_true_eq]
    rintro ⟨⟨⟨⟨read, known⟩, liquid0⟩, liquid1⟩, kept⟩
    rcases unusable with failed | unknown | empty | empty | whole
    · exact Bool.false_ne_true (read.symm.trans failed)
    · exact Bool.false_ne_true (unknown.symm.trans known)
    · exact liquid0 empty
    · exact liquid1 empty
    · exact UInt32.not_lt.mpr whole kept
  rw [isTakenBy, unpriced]
  rfl

end Pair

section Search

variable (log : Float → Float) (pairs : List Pair)

/-- The graph of all pairs is the one of those that it takes, with the places that these have
among all. -/
theorem RateGraph.pricedBy_eq_reindex :
    pricedBy log pairs =
      (pricedBy log (pairs.filter (Pair.isTakenBy log))).reindex
        (keptPlace (Pair.isTakenBy log) pairs) := by
  rw [pricedBy, pricedBy, ← insertQuotes_reindex, List.map_filterMap]
  congr 1
  have taken : (fun placed : Pair × Nat => placed.1.quoteBy? log placed.2) = fun placed =>
      if (Pair.isTakenBy log ∘ Prod.fst) placed then placed.1.quoteBy? log placed.2 else none := by
    funext placed
    rw [Function.comp_apply, ← Pair.isSome_quoteBy? placed.1 placed.2]
    cases placed.1.quoteBy? log placed.2 with
    | none => rfl
    | some q => rfl
  show pairs.zipIdx.filterMap (fun placed => placed.1.quoteBy? log placed.2) = _
  rw [taken, ← List.filterMap_filter, filter_zipIdx, List.filterMap_map]
  congr 1
  funext placed
  exact Pair.quoteBy?_place _ placed.1 placed.2

theorem PricedLoop.strongestBy_eq_filter (base : Address) (passes hops : Nat) :
    strongestBy log base passes hops pairs =
      strongestBy log base passes hops (pairs.filter (Pair.isTakenBy log)) := by
  rw [strongestBy, strongestBy, RateGraph.pricedBy_eq_reindex, RateGraph.strongestLoop_reindex]
  cases (RateGraph.pricedBy log (pairs.filter (Pair.isTakenBy log))).strongestLoop
      ⟨passes, hops, RateGraph.noise⟩ base with
  | none => rfl
  | some found =>
    have looked : (found.hops.map (RateEdge.reindex (keptPlace (Pair.isTakenBy log) pairs))).mapM
        (fun e => pairs[e.index]?) =
        found.hops.mapM fun e => (pairs.filter (Pair.isTakenBy log))[e.index]? := by
      rw [List.mapM_map]
      congr 1
      funext e
      exact getElem?_keptPlace pairs e.index
    rw [Option.map_some, Option.bind_eq_bind, Option.bind_some, Option.bind_some,
      RateGraph.FoundLoop.tokens_reindex]
    exact congrArg
      (fun path : Option (List Pair) => path.bind fun path =>
        some (⟨path, found.tokens, found.growth⟩ : PricedLoop))
      looked

end Search

/-- Lists with the same pairs for the graph to take give the same loop, made of the same pair
states. So any pairs that failed, lack a token, lack liquidity on a side or charge the whole
amount can come, go and change anywhere in a list. -/
theorem strongestIn_of_same_taken (base : Address) (passes hops : Nat) :
    (∀ (g : RateGraph Float) (index : Nat) (p : Pair),
      (g.insertPair index p).2 = p.isTakenBy Float.log) ∧
    (∀ pairs pairs' : List Pair,
      pairs.filter (Pair.isTakenBy Float.log) = pairs'.filter (Pair.isTakenBy Float.log) →
        PricedLoop.strongestIn base passes hops pairs =
          PricedLoop.strongestIn base passes hops pairs') ∧
    (∀ (log : Float → Float) (pairs pairs' : List Pair),
      pairs.filter (Pair.isTakenBy log) = pairs'.filter (Pair.isTakenBy log) →
        PricedLoop.strongestBy log base passes hops pairs =
          PricedLoop.strongestBy log base passes hops pairs') ∧
    ∀ front between between' back : List Pair,
      (∀ p ∈ between ++ between', p.failed = true ∨ p.knowsTokens = false ∨ p.reserve0 = 0 ∨
        p.reserve1 = 0 ∨ feeBase ≤ p.chargedFee) →
        PricedLoop.strongestIn base passes hops (front ++ between ++ back) =
          PricedLoop.strongestIn base passes hops (front ++ between' ++ back) := by
  have any_log (log : Float → Float) (pairs pairs' : List Pair)
      (same : pairs.filter (Pair.isTakenBy log) = pairs'.filter (Pair.isTakenBy log)) :
      PricedLoop.strongestBy log base passes hops pairs =
        PricedLoop.strongestBy log base passes hops pairs' := by
    rw [PricedLoop.strongestBy_eq_filter, same, ← PricedLoop.strongestBy_eq_filter]
  have same_taken (pairs pairs' : List Pair)
      (same : pairs.filter (Pair.isTakenBy Float.log) = pairs'.filter (Pair.isTakenBy Float.log)) :
      PricedLoop.strongestIn base passes hops pairs =
        PricedLoop.strongestIn base passes hops pairs' := by
    rw [PricedLoop.strongestIn_eq, PricedLoop.strongestIn_eq]
    exact any_log _ _ _ same
  refine ⟨Pair.snd_insertPair, same_taken, any_log, ?_⟩
  intro front between between' back unusable
  have left {ps : List Pair} (among : ps ⊆ between ++ between') :
      ps.filter (Pair.isTakenBy Float.log) = [] := by
    rw [List.filter_eq_nil_iff]
    intro p member
    rw [Bool.not_eq_true]
    exact Pair.isTakenBy_of_unusable (unusable p (among member))
  apply same_taken
  rw [List.filter_append, List.filter_append, List.filter_append, List.filter_append,
    left (List.subset_append_left _ _), left (List.subset_append_right _ _)]

def unusablePairs : List Pair :=
  [⟨.uniswapV2, 0xb1, 1, 2, 1000, 9000, none, true, ⟨⟨1, 0, 0⟩, 0⟩, .none⟩,
    ⟨.uniswapV2, 0xb2, 2, 1, 0, 9000, none, false, ⟨⟨1, 0, 0⟩, 0⟩, .none⟩,
    ⟨.uniswapV2, 0xb3, 2, 1, 1000, 9000, some 10000, false, ⟨⟨1, 0, 0⟩, 0⟩, .none⟩]

/-- Between the two pools these pairs change nothing, and the two pools are found. -/
theorem doublingPath_found_among_unusable :
    PricedLoop.strongestIn 1 RateGraph.defaultPasses RateGraph.maxHops
        (doublingPath.take 1 ++ unusablePairs ++ doublingPath.drop 1) =
      PricedLoop.strongestIn 1 RateGraph.defaultPasses RateGraph.maxHops doublingPath ∧
    ∃ l, PricedLoop.strongestBy doublingLog 1 RateGraph.defaultPasses RateGraph.maxHops
        (doublingPath.take 1 ++ unusablePairs ++ doublingPath.drop 1) = some l ∧
      PricedLoop.strongestBy doublingLog 1 RateGraph.defaultPasses RateGraph.maxHops doublingPath =
        some l ∧ l.pairs = doublingPath := by
  obtain ⟨_, _, any_log, among⟩ :=
    strongestIn_of_same_taken 1 RateGraph.defaultPasses RateGraph.maxHops
  refine ⟨among (doublingPath.take 1) unusablePairs [] (doublingPath.drop 1) (by decide), ?_⟩
  have pairs : (PricedLoop.strongestBy doublingLog 1 RateGraph.defaultPasses RateGraph.maxHops
      doublingPath).map PricedLoop.pairs = some doublingPath := by
    decide +kernel
  obtain ⟨l, found, same⟩ := Option.map_eq_some_iff.mp pairs
  have taken : (doublingPath.take 1 ++ unusablePairs ++ doublingPath.drop 1).filter
      (Pair.isTakenBy doublingLog) = doublingPath.filter (Pair.isTakenBy doublingLog) := by
    decide +kernel
  exact ⟨l, (any_log _ _ _ taken).trans found, found, same⟩

end SwapLoops
