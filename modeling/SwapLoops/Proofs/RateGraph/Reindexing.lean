import SwapLoops.Proofs.RateGraph.Relaxation

/-! The places of pairs in a list are carried along by a search and never looked at. When the edges
of a graph get other places, the search finds the same loop with these places. -/

namespace SwapLoops

variable {W : Type} {place : Nat → Nat}

def RateEdge.reindex (place : Nat → Nat) (e : RateEdge W) : RateEdge W :=
  { e with index := place e.index }

theorem RateEdge.source_reindex (e : RateEdge W) : (e.reindex place).source = e.source := rfl

def Quote.reindex (place : Nat → Nat) (q : Quote W) : Quote W := { q with index := place q.index }

namespace RateGraph

def reindex (place : Nat → Nat) (g : RateGraph W) : RateGraph W :=
  ⟨g.tokens, g.edges.map (RateEdge.reindex place)⟩

def Label.reindex (place : Nat → Nat) (l : Label W) : Label W :=
  ⟨l.distance, l.via.map (RateEdge.reindex place)⟩

def Labels.reindex (place : Nat → Nat) (labels : Labels W) : Labels W :=
  labels.map fun _ l => l.reindex place

def FoundLoop.reindex (place : Nat → Nat) (l : FoundLoop W) : FoundLoop W :=
  ⟨l.hops.map (RateEdge.reindex place), l.totalWeight⟩

theorem FoundLoop.tokens_reindex (l : FoundLoop W) : (l.reindex place).tokens = l.tokens := by
  rw [tokens, tokens, reindex, List.map_map, List.getLast?_map, Option.map_map]
  rfl

theorem insertEdge_reindex (g : RateGraph W) (e : RateEdge W) :
    (g.reindex place).insertEdge (e.reindex place) = (g.insertEdge e).reindex place := by
  simp [insertEdge, reindex, RateEdge.reindex]

theorem insertQuote_reindex (g : RateGraph W) (q : Quote W) :
    (g.reindex place).insertQuote (q.reindex place) = (g.insertQuote q).reindex place := by
  rw [insertQuote, insertQuote, ← insertEdge_reindex, ← insertEdge_reindex]
  rfl

theorem insertQuotes_reindex (g : RateGraph W) (qs : List (Quote W)) :
    (g.reindex place).insertQuotes (qs.map (Quote.reindex place)) =
      (g.insertQuotes qs).reindex place := by
  rw [insertQuotes, List.foldl_map]
  exact List.foldl_hom (reindex place) fun g q => insertQuote_reindex g q

theorem getElem?_reindex (labels : Labels W) (token : Address) :
    (labels.reindex place)[token]? = labels[token]?.map (Label.reindex place) :=
  Std.ExtTreeMap.getElem?_map

theorem insert_reindex (labels : Labels W) (token : Address) (l : Label W) :
    (labels.reindex place).insert token (l.reindex place) =
      Labels.reindex place (labels.insert token l) := by
  apply Std.ExtTreeMap.ext_getElem?
  intro token'
  rw [getElem?_reindex, getElem?_insert, getElem?_insert, getElem?_reindex]
  split_ifs
  · rfl
  · rfl

theorem start_reindex [Zero W] (base : Address) :
    Labels.reindex place (start base : Labels W) = start base := by
  rw [start, ← insert_reindex]
  rfl

theorem traceBack_reindex (base : Address) (labels : Labels W) (n : Nat) (e : RateEdge W)
    (hops : List (RateEdge W)) :
    traceBack base (labels.reindex place) n (e.reindex place)
        (hops.map (RateEdge.reindex place)) =
      (traceBack base labels n e hops).map (List.map (RateEdge.reindex place)) := by
  induction n generalizing e hops with
  | zero => rfl
  | succ n ih =>
    rw [traceBack, traceBack, List.any_map, List.any_map, getElem?_reindex]
    -- each test reads what a place does not touch
    show (if hops.any (·.pair = e.pair) then none
      else if e.source = base then some ((e :: hops).map (RateEdge.reindex place))
      else if hops.any (·.source = e.source) then none
      else _) = _
    split_ifs
    · rfl
    · rfl
    · rfl
    · rw [RateEdge.source_reindex]
      cases labels[e.source]? with
      | none => rfl
      | some l =>
        obtain ⟨distance, via⟩ := l
        cases via with
        | none => rfl
        | some previous => exact ih previous (e :: hops)

theorem totalWeight_reindex [Zero W] [Add W] (hops : List (RateEdge W)) :
    totalWeight (hops.map (RateEdge.reindex place)) = totalWeight hops := by
  rw [totalWeight, List.map_map]
  rfl

section Closings

variable [Add W] [Neg W] [LT W] [DecidableLT W]

/-- The candidates are the same, and the sort does not look at their edges. -/
theorem closings_reindex (g : RateGraph W) (limits : Limits W) (base : Address)
    (labels : Labels W) :
    (g.reindex place).closings limits base (labels.reindex place) =
      (g.closings limits base labels).map (Prod.map id (RateEdge.reindex place)) := by
  unfold closings
  dsimp only
  rw [List.map_mergeSort (f := Prod.map id (RateEdge.reindex place))
      (r := fun a b => !decide (b.1 < a.1)) (s := fun a b => !decide (b.1 < a.1))
      fun a _ b _ => rfl,
    List.map_filterMap, reindex, ← List.map_reverse, List.filterMap_map]
  congr 1
  apply List.filterMap_congr
  intro e _
  show (if e.target = base then _ else none) = _
  rw [getElem?_reindex, RateEdge.source_reindex]
  split_ifs with target
  · cases labels[e.source]? with
    | none => rfl
    | some l =>
      show (if l.distance + e.weight < -limits.epsilon then _ else _) =
        Option.map _ (if l.distance + e.weight < -limits.epsilon then _ else _)
      split_ifs
      · rfl
      · rfl
  · rfl

end Closings

section Search

variable [Sub W] [LT W] [DecidableLT W] {base : Address} {epsilon : W}

theorem improves_reindex (candidate : W) (l? : Option (Label W)) :
    improves epsilon candidate (l?.map (Label.reindex place)) = improves epsilon candidate l? := by
  cases l? with
  | none => rfl
  | some l => rfl

variable [Add W]

theorem relaxEdge_reindex (state : Labels W × Bool) (e : RateEdge W) :
    relaxEdge base epsilon (state.map (Labels.reindex place) id) (e.reindex place) =
      (relaxEdge base epsilon state e).map (Labels.reindex place) id := by
  obtain ⟨labels, changed⟩ := state
  obtain ⟨index, pair, source, target, zeroForOne, weight⟩ := e
  simp only [relaxEdge, RateEdge.reindex, Prod.map_apply, getElem?_reindex, improves_reindex]
  split_ifs with home
  · rfl
  · cases labels[source]? with
    | none => rfl
    | some l =>
      obtain ⟨distance, via⟩ := l
      simp only [Option.map_some, Label.reindex]
      split_ifs
      · rw [Prod.map_apply, ← insert_reindex]
        rfl
      · rfl

theorem relaxPass_reindex (edges : List (RateEdge W)) (labels : Labels W) :
    relaxPass base epsilon (edges.map (RateEdge.reindex place)) (labels.reindex place) =
      (relaxPass base epsilon edges labels).map (Labels.reindex place) id := by
  rw [relaxPass, List.foldl_map]
  show edges.foldl (fun state e => relaxEdge base epsilon state (e.reindex place))
    (Prod.map (Labels.reindex place) id (labels, false)) = _
  exact List.foldl_hom _ fun state e => relaxEdge_reindex state e

theorem relax_reindex (edges : List (RateEdge W)) (n : Nat) (labels : Labels W) :
    relax base epsilon (edges.map (RateEdge.reindex place)) n (labels.reindex place) =
      Labels.reindex place (relax base epsilon edges n labels) := by
  induction n generalizing labels with
  | zero => rfl
  | succ n ih =>
    simp only [relax, relaxPass_reindex, Prod.map_fst, Prod.map_snd, id_eq]
    split_ifs
    · exact ih _
    · rfl

variable {limits : Limits W}

theorem labelled_reindex [Zero W] (g : RateGraph W) :
    (g.reindex place).labelled limits base = Labels.reindex place (g.labelled limits base) := by
  rw [labelled, labelled, ← relax_reindex, start_reindex]
  rfl

theorem strongestLoop_reindex [Zero W] [Neg W] (g : RateGraph W) :
    (g.reindex place).strongestLoop limits base =
      (g.strongestLoop limits base).map (FoundLoop.reindex place) := by
  unfold strongestLoop
  show (if g.tokens.length < 2 ∨ !g.knows base then none else _) = _
  split_ifs
  · rfl
  · dsimp only
    rw [labelled_reindex, closings_reindex, List.findSome?_map, List.map_findSome?]
    congr 1
    funext c
    have traced : traceBack base ((g.labelled limits base).reindex place) limits.hops
        (c.2.reindex place) [] =
        (traceBack base (g.labelled limits base) limits.hops c.2 []).map
          (List.map (RateEdge.reindex place)) :=
      traceBack_reindex base _ limits.hops c.2 []
    simp only [Function.comp_apply, Prod.map_snd]
    rw [traced, Option.map_map, Option.map_map]
    congr 1
    funext hops
    rw [Function.comp_apply, totalWeight_reindex]
    rfl

end Search

end RateGraph

end SwapLoops
