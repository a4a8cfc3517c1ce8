import SwapLoops.Proofs.RateGraph.Bounds

/-! How good the loop is that the search finds. If no ring away from the base is a gain and
no pair gains there and back, then what is found is as good as any loop that the passes
can follow, up to the tolerance at each hop. -/

namespace SwapLoops.RateGraph

variable {W : Type}

theorem head_closings_le [Add W] [Neg W] [LinearOrder W] {g : RateGraph W} {base : Address}
    {limits : Limits W} {labels : Labels W} {c : W × RateEdge W} {rest : List (W × RateEdge W)}
    (first : g.closings limits base labels = c :: rest) {c' : W × RateEdge W}
    (member : c' ∈ g.closings limits base labels) : c.1 ≤ c'.1 := by
  have ordered : (g.closings limits base labels).Pairwise
      fun a b => (!decide (b.1 < a.1)) = true := by
    apply List.pairwise_mergeSort
    · simp only [Bool.not_eq_true', decide_eq_false_iff_not, not_lt]
      exact fun a b c => le_trans
    · simp only [Bool.or_eq_true, Bool.not_eq_true', decide_eq_false_iff_not, not_lt]
      exact fun a b => le_total a.1 b.1
  rw [first] at ordered member
  rcases List.mem_cons.mp member with rfl | member
  · exact le_rfl
  · have before := List.rel_of_pairwise_cons ordered member
    simpa only [Bool.not_eq_true', decide_eq_false_iff_not, not_lt] using before

section Quotes

variable [AddCommGroup W] [LinearOrder W] [IsOrderedAddMonoid W] {qs : List (Quote W)}
  {base : Address} {limits : Limits W}

section Closing

variable {c : W × RateEdge W} {front : List (RateEdge W)} (distinct : (qs.map Quote.pair).Nodup)
  (nonneg : 0 ≤ limits.epsilon) (back : ∀ q ∈ qs, -limits.epsilon ≤ q.weight0 + q.weight1)
  (closing : c ∈ (empty.insertQuotes qs).closings limits base
    ((empty.insertQuotes qs).labelled limits base))

include distinct nonneg back closing

/-- A closing edge below the tolerance meets no pair of its trail again. -/
theorem Trail.nodup_pairs
    (trail : Trail ((empty.insertQuotes qs).labelled limits base) base front c.2.source) :
    ((front ++ [c.2]).map RateEdge.pair).Nodup := by
  obtain ⟨member, target, _, _, _, negative⟩ := mem_closings.mp closing
  have isLoop := trail.isLoop (sound_labelled _ limits base) member target
  have weight := (trail.totalWeight_le (tolerant_of_nonneg nonneg) closing).trans_lt negative
  rcases isLoop.nodup_or_back distinct with pairs | ⟨q, quoted, sides⟩
  · exact pairs
  · have same : totalWeight (front ++ [c.2]) = q.weight0 + q.weight1 := by
      rcases sides with whole | whole <;> rw [whole] <;>
        simp [Quote.forward, Quote.backward, add_comm]
    rw [same] at weight
    exact absurd (back q quoted) (not_le.mpr weight)

theorem Trail.traceBack_eq
    (trail : Trail ((empty.insertQuotes qs).labelled limits base) base front c.2.source)
    (short : front.length < limits.hops) :
    traceBack base ((empty.insertQuotes qs).labelled limits base) limits.hops c.2 [] =
      some (front ++ [c.2]) := by
  obtain ⟨member, target, _⟩ := mem_closings.mp closing
  refine (traceBack_eq_some_iff (sound_labelled _ limits base) member target).mpr
    ⟨front, rfl, trail, ?_, trail.nodup_pairs distinct nonneg back closing⟩
  rwa [List.length_append, List.length_singleton]

theorem traceBack_eq_none_iff :
    traceBack base ((empty.insertQuotes qs).labelled limits base) limits.hops c.2 [] = none ↔
      ∀ front, Trail ((empty.insertQuotes qs).labelled limits base) base front c.2.source →
        limits.hops ≤ front.length := by
  obtain ⟨member, target, _⟩ := mem_closings.mp closing
  constructor
  · intro lost front trail
    by_contra short
    rw [trail.traceBack_eq distinct nonneg back closing (not_le.mp short)] at lost
    cases lost
  · intro long
    by_contra traced
    obtain ⟨hops, traced⟩ := Option.ne_none_iff_exists'.mp traced
    obtain ⟨front, rfl, trail, short, _⟩ :=
      (traceBack_eq_some_iff (sound_labelled _ limits base) member target).mp traced
    rw [List.length_append, List.length_singleton] at short
    exact absurd (long front trail) (not_le.mpr short)

end Closing

/-- What is found is as good as any loop that the passes can follow, up to the tolerance at
each hop but one. -/
theorem strongestLoop_le_of_isLoop (distinct : (qs.map Quote.pair).Nodup)
    (tokens : ∀ q ∈ qs, q.token0 ≠ q.token1) (nonneg : 0 ≤ limits.epsilon)
    (allHops : (empty.insertQuotes qs).tokens.length ≤ limits.hops)
    (ringless : ∀ ring, (empty.insertQuotes qs).IsRing base ring → 0 ≤ totalWeight ring)
    (back : ∀ q ∈ qs, 0 ≤ q.weight0 + q.weight1) {hops : List (RateEdge W)}
    (cheap : (empty.insertQuotes qs).IsLoop base hops)
    (enough : hops.length ≤ (empty.insertQuotes qs).passCount limits + 1)
    (light : totalWeight hops < -(hops.length • limits.epsilon)) :
    ∃ l, (empty.insertQuotes qs).strongestLoop limits base = some l ∧
      l.totalWeight ≤ totalWeight hops + (hops.length - 1) • limits.epsilon := by
  have tolerance : -limits.epsilon ≤ 0 := neg_nonpos.mpr nonneg
  have rooted := rooted_labelled nonneg fun ring isRing => tolerance.trans (ringless ring isRing)
  have placed := placed_insertQuotes qs
  obtain ⟨two, known⟩ := cheap.knows placed (source_ne_target_ofQuotes tokens)
  obtain ⟨c', closing', bound'⟩ := cheap.exists_closing nonneg enough light
  obtain ⟨c, rest, first⟩ := List.exists_cons_of_ne_nil (List.ne_nil_of_mem closing')
  have closing : c ∈ (empty.insertQuotes qs).closings limits base
      ((empty.insertQuotes qs).labelled limits base) := first ▸ List.mem_cons_self
  obtain ⟨member, target, _, label, _⟩ := mem_closings.mp closing
  obtain ⟨front, trail⟩ := rooted label
  have isLoop := trail.isLoop (sound_labelled _ limits base) member target
  have short := (isLoop.length_le fun e edge => (placed e edge).1).trans allHops
  rw [List.length_append, List.length_singleton] at short
  have traced := trail.traceBack_eq distinct nonneg
    (fun q quoted => tolerance.trans (back q quoted)) closing short
  refine ⟨_, strongestLoop_eq_of_head two known first traced, ?_⟩
  calc totalWeight (front ++ [c.2])
      ≤ c.1 := trail.totalWeight_le (tolerant_of_nonneg nonneg) closing
    _ ≤ c'.1 := head_closings_le first closing'
    _ ≤ totalWeight hops + (hops.length - 1) • limits.epsilon := bound'

end Quotes

def sampleQuotes : List (Quote ℚ) :=
  [⟨0, 0xa1, 1, 2, -1, 2⟩, ⟨1, 0xa2, 2, 3, 1 / 4, 1 / 2⟩, ⟨2, 0xa3, 3, 1, -1, 2⟩,
    ⟨3, 0xa4, 2, 1, 1 / 8, 1 / 8⟩]

def sampleLoop : List (RateEdge ℚ) :=
  [⟨0, 0xa1, 1, 2, true, -1⟩, ⟨1, 0xa2, 2, 3, true, 1 / 4⟩, ⟨2, 0xa3, 3, 1, true, -1⟩]

theorem strongestLoop_le_sampleLoop :
    (sampleQuotes.map Quote.pair).Nodup ∧ (∀ q ∈ sampleQuotes, q.token0 ≠ q.token1) ∧
    0 ≤ (1 / 1000 : ℚ) ∧ (empty.insertQuotes sampleQuotes).tokens.length ≤ 10 ∧
    (∀ ring, (empty.insertQuotes sampleQuotes).IsRing 1 ring → 0 ≤ totalWeight ring) ∧
    (∀ q ∈ sampleQuotes, 0 ≤ q.weight0 + q.weight1) ∧
    (empty.insertQuotes sampleQuotes).IsLoop 1 sampleLoop ∧
    sampleLoop.length ≤ (empty.insertQuotes sampleQuotes).passCount ⟨0, 10, 1 / 1000⟩ + 1 ∧
    totalWeight sampleLoop < -(sampleLoop.length • (1 / 1000 : ℚ)) ∧
    ∃ l, (empty.insertQuotes sampleQuotes).strongestLoop ⟨0, 10, 1 / 1000⟩ 1 = some l ∧
      l.totalWeight ≤ totalWeight sampleLoop + (sampleLoop.length - 1) • (1 / 1000 : ℚ) := by
  have distinct : (sampleQuotes.map Quote.pair).Nodup := by decide
  have tokens : ∀ q ∈ sampleQuotes, q.token0 ≠ q.token1 := by decide
  have nonneg : 0 ≤ (1 / 1000 : ℚ) := by norm_num
  have allHops : (empty.insertQuotes sampleQuotes).tokens.length ≤ 10 := by decide
  have ringless : ∀ ring, (empty.insertQuotes sampleQuotes).IsRing 1 ring → 0 ≤ totalWeight ring :=
    fun ring isRing => isRing.totalWeight_nonneg (by decide +kernel)
  have back : ∀ q ∈ sampleQuotes, 0 ≤ q.weight0 + q.weight1 := by decide +kernel
  have isLoop : (empty.insertQuotes sampleQuotes).IsLoop 1 sampleLoop := by decide +kernel
  have enough : sampleLoop.length ≤
      (empty.insertQuotes sampleQuotes).passCount ⟨0, 10, 1 / 1000⟩ + 1 := by decide
  have light : totalWeight sampleLoop < -(sampleLoop.length • (1 / 1000 : ℚ)) := by
    norm_num [sampleLoop]
  exact ⟨distinct, tokens, nonneg, allHops, ringless, back, isLoop, enough, light,
    strongestLoop_le_of_isLoop distinct tokens nonneg allHops ringless back isLoop enough light⟩

end SwapLoops.RateGraph
