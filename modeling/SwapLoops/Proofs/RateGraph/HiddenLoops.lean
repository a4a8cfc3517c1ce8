import SwapLoops.Proofs.RateGraph.ExactRates
import SwapLoops.Proofs.RateGraph.Optimality

/-! When the search misses a loop. Each token keeps one label, so a ring away from the base
can take over the labels that a loop needs, and a longer way to a token those of a short one. -/

namespace SwapLoops

namespace RateGraph

section Undercut

variable {W : Type} [AddCommGroup W] [LinearOrder W] [IsOrderedAddMonoid W] {g : RateGraph W}
  {base token : Address} {limits : Limits W} {e : RateEdge W} {hops : List (RateEdge W)}

/-- There is a way that the passes follow to the target of an edge from the base, which is
cheaper than the edge even if each of its hops is off by the tolerance. -/
def Undercut (g : RateGraph W) (limits : Limits W) (base : Address) (e : RateEdge W) : Prop :=
  ∃ way, g.IsWalk base way e.target ∧ base ∉ way.map RateEdge.target ∧
    way.length ≤ g.passCount limits ∧ totalWeight way + way.length • limits.epsilon < e.weight

theorem Undercut.via_ne (undercut : Undercut g limits base e) (nonneg : 0 ≤ limits.epsilon)
    (source : e.source = base) {l : Label W} (label : (g.labelled limits base)[e.target]? = some l) :
    l.via ≠ some e := by
  intro via
  obtain ⟨way, walk, avoids, enough, cheaper⟩ := undercut
  obtain ⟨l', label', bound⟩ := within_labelled nonneg walk avoids enough
  obtain ⟨l₀, label₀, slack⟩ := slack_labelled (tolerant_of_nonneg nonneg) g base label via
  rw [source, (sound_labelled g limits base).pinned, Option.some.injEq] at label₀
  rw [label, Option.some.injEq] at label'
  rw [← label₀, zero_add] at slack
  rw [← label'] at bound
  exact absurd (slack.trans bound) (not_le.mpr cheaper)

/-- Where each edge from the base is undercut, no label leads back to the base. -/
theorem Trail.eq_nil_of_undercut (nonneg : 0 ≤ limits.epsilon)
    (undercut : ∀ e ∈ g.edges, e.source = base → Undercut g limits base e)
    (trail : Trail (g.labelled limits base) base hops token) : hops = [] := by
  have sound := sound_labelled g limits base
  induction trail with
  | start => rfl
  | @step before e token l trail label via ih =>
    subst ih
    obtain ⟨member, rfl, _⟩ := sound.via_mem label via
    have source : e.source = base := (trail.isWalk sound).symm
    exact absurd via ((undercut e member source).via_ne nonneg source label)

theorem strongestLoop_eq_none_of_undercut (nonneg : 0 ≤ limits.epsilon)
    (apart : ∀ e ∈ g.edges, e.source ≠ e.target)
    (undercut : ∀ e ∈ g.edges, e.source = base → Undercut g limits base e) :
    g.strongestLoop limits base = none := by
  by_contra found
  obtain ⟨l, found⟩ := Option.ne_none_iff_exists'.mp found
  obtain ⟨c, closing, front, _, trail, _⟩ := exists_trail_of_strongestLoop found
  obtain ⟨member, target, _⟩ := mem_closings.mp closing
  obtain rfl := trail.eq_nil_of_undercut nonneg undercut
  have source : base = c.2.source := trail.isWalk (sound_labelled g limits base)
  exact apart c.2 member (source.symm.trans target.symm)

end Undercut

section Exact

variable {pairs : List Pair} {limits : Limits ℝ} {base : Address} {hops : List (RateEdge ℝ)}

/-- A loop over distinct pairs that can be priced, which the passes can follow, the limit of
hops allows and the tolerance at each of its hops does not use up. -/
structure InReach (pairs : List Pair) (limits : Limits ℝ) (base : Address)
    (hops : List (RateEdge ℝ)) : Prop where
  priced : ∀ p ∈ pairs, p.hasPrice = true
  distinct : (pairs.map Pair.address).Nodup
  isLoop : (ofPairsExact pairs).IsLoop base hops
  distinctHops : (hops.map RateEdge.pair).Nodup
  enough : hops.length ≤ (ofPairsExact pairs).passCount limits + 1
  short : hops.length ≤ limits.hops
  light : totalWeight hops < -(hops.length • limits.epsilon)

/-- With a loop in reach, some edge closes a loop. Nothing is found just if no such edge has
a trail back to the base with a hop to spare, and then a ring away from the base or a loop
over the limit of hops is a gain. -/
theorem InReach.hidden_iff (reach : InReach pairs limits base hops)
    (nonneg : 0 ≤ limits.epsilon) :
    (ofPairsExact pairs).closings limits base ((ofPairsExact pairs).labelled limits base) ≠ [] ∧
    ((ofPairsExact pairs).strongestLoop limits base = none ↔
      ∀ c ∈ (ofPairsExact pairs).closings limits base ((ofPairsExact pairs).labelled limits base),
        ∀ front, Trail ((ofPairsExact pairs).labelled limits base) base front c.2.source →
          limits.hops ≤ front.length) ∧
    ((ofPairsExact pairs).strongestLoop limits base = none →
      (∃ ring, (ofPairsExact pairs).IsRing base ring ∧ totalWeight ring < -limits.epsilon) ∨
        ∃ long, (ofPairsExact pairs).IsLoop base long ∧ (long.map RateEdge.pair).Nodup ∧
          limits.hops < long.length ∧ totalWeight long < -limits.epsilon) := by
  have distinct := nodup_pair_exactQuotes reach.distinct
  have back : ∀ q ∈ exactQuotes pairs, -limits.epsilon ≤ q.weight0 + q.weight1 :=
    fun q quoted => (neg_nonpos.mpr nonneg).trans (exactQuotes_back q quoted)
  obtain ⟨two, known⟩ := reach.isLoop.knows (placed_insertQuotes (exactQuotes pairs))
    (source_ne_target_ofQuotes exactQuotes_tokens_ne)
  obtain ⟨c, closing, _⟩ := reach.isLoop.exists_closing nonneg reach.enough reach.light
  have hidden := (strongestLoop_eq_none_iff two known).trans
    (forall₂_congr fun c closing => traceBack_eq_none_iff distinct nonneg back closing)
  refine ⟨List.ne_nil_of_mem closing, hidden, fun lost => ?_⟩
  by_cases ringless : ∀ ring, (ofPairsExact pairs).IsRing base ring →
      -limits.epsilon ≤ totalWeight ring
  · obtain ⟨member, target, _, label, _, negative⟩ := mem_closings.mp closing
    obtain ⟨front, trail⟩ := rooted_labelled nonneg ringless label
    have long := hidden.mp lost c closing front trail
    refine Or.inr ⟨front ++ [c.2], trail.isLoop (sound_labelled _ limits base) member target,
      trail.nodup_pairs distinct nonneg back closing, ?_, ?_⟩
    · rw [List.length_append, List.length_singleton]
      exact Nat.lt_succ_of_le long
    · exact (trail.totalWeight_le (tolerant_of_nonneg nonneg) closing).trans_lt negative
  · push Not at ringless
    exact Or.inl ringless

end Exact

section Pools

/-- A pool that takes no fee. -/
def poolBetween (address token0 token1 : Address) (reserve0 reserve1 : Word) : Pair :=
  ⟨.uniswapV2, address, token0, token1, reserve0, reserve1, some 0, false, ⟨⟨1, 0, 0⟩, 0⟩, .none⟩

/-- Two pools that double the first token there and back. -/
def doublingPools : List Pair := [poolBetween 0xa1 1 2 1000 1000, poolBetween 0xa2 2 1 1000 2000]

/-- The same with a ring through the second token that doubles it. -/
def ringPools : List Pair :=
  doublingPools ++
    [poolBetween 0xa3 2 3 1000 2000, poolBetween 0xa4 3 4 1000 1000, poolBetween 0xa5 4 2 1000 1000]

/-- The same with a better way to the second token, by a third one. -/
def detourPools : List Pair :=
  doublingPools ++ [poolBetween 0xa3 1 3 1000 2000, poolBetween 0xa4 3 2 1000 1000]

noncomputable def doublingQuotes : List (Quote ℝ) :=
  [⟨0, 0xa1, 1, 2, 0, 0⟩, ⟨1, 0xa2, 2, 1, -Real.log 2, Real.log 2⟩]

noncomputable def ringQuotes : List (Quote ℝ) :=
  doublingQuotes ++
    [⟨2, 0xa3, 2, 3, -Real.log 2, Real.log 2⟩, ⟨3, 0xa4, 3, 4, 0, 0⟩, ⟨4, 0xa5, 4, 2, 0, 0⟩]

noncomputable def detourQuotes : List (Quote ℝ) :=
  doublingQuotes ++ [⟨2, 0xa3, 1, 3, -Real.log 2, Real.log 2⟩, ⟨3, 0xa4, 3, 2, 0, 0⟩]

theorem exactQuote_even (index : Nat) (address token0 token1 : Address) :
    (poolBetween address token0 token1 1000 1000).exactQuote index =
      ⟨index, address, token0, token1, 0, 0⟩ := by
  have rate : exactRate 1000 1000 0 = 1 := by
    rw [exactRate_free (by decide)]
    exact div_self (Nat.cast_ne_zero.mpr (by decide))
  have weight : -Real.log (exactRate 1000 1000 0) = 0 := by
    rw [rate, Real.log_one, neg_zero]
  exact congrArg₂ (Quote.mk index address token0 token1) weight weight

theorem exactQuote_double (index : Nat) (address token0 token1 : Address) :
    (poolBetween address token0 token1 1000 2000).exactQuote index =
      ⟨index, address, token0, token1, -Real.log 2, Real.log 2⟩ := by
  have amount : ((2000 : Word).toNat : ℝ) = 2 * (1000 : Word).toNat := by
    exact_mod_cast (by decide : (2000 : Word).toNat = 2 * (1000 : Word).toNat)
  have positive : ((1000 : Word).toNat : ℝ) ≠ 0 := Nat.cast_ne_zero.mpr (by decide)
  have rate : exactRate 1000 2000 0 = 2 := by
    rw [exactRate_free (by decide), amount, mul_div_cancel_right₀ _ positive]
  have rate' : exactRate 2000 1000 0 = 2⁻¹ := by
    rw [exactRate_free (by decide), amount, mul_comm, div_mul_cancel_left₀ positive]
  have weight' : -Real.log (exactRate 2000 1000 0) = Real.log 2 := by
    rw [rate', Real.log_inv, neg_neg]
  exact congrArg₂ (Quote.mk index address token0 token1) (congrArg (-Real.log ·) rate) weight'

theorem exactQuotes_pools : exactQuotes doublingPools = doublingQuotes ∧
    exactQuotes ringPools = ringQuotes ∧ exactQuotes detourPools = detourQuotes := by
  refine ⟨?_, ?_, ?_⟩ <;> rw [exactQuotes, List.filter_eq_self.mpr (by decide)] <;>
    simp only [doublingPools, ringPools, detourPools, List.cons_append, List.nil_append,
      List.zipIdx_cons, List.zipIdx_nil, List.map_cons, List.map_nil, exactQuote_even,
      exactQuote_double] <;> rfl

noncomputable def doublingLoop : List (RateEdge ℝ) :=
  [⟨0, 0xa1, 1, 2, true, 0⟩, ⟨1, 0xa2, 2, 1, true, -Real.log 2⟩]

noncomputable def exactLimits (hops : Nat) : Limits ℝ := ⟨defaultPasses, hops, 1e-9⟩

theorem exactLimits_nonneg (hops : Nat) : 0 ≤ (exactLimits hops).epsilon := by
  norm_num [exactLimits]

theorem light_of_doubling {hops : Nat} {way : List (RateEdge ℝ)} (few : way.length ≤ 4)
    (doubles : totalWeight way = -Real.log 2) :
    totalWeight way + way.length • (exactLimits hops).epsilon < 0 := by
  have gain := Real.log_two_gt_d9
  have length : (way.length : ℝ) ≤ 4 := by exact_mod_cast few
  have slack : way.length • (exactLimits hops).epsilon ≤ 4 * 1e-9 := by
    rw [nsmul_eq_mul]
    exact mul_le_mul_of_nonneg_right length (exactLimits_nonneg hops)
  have little : (4 * 1e-9 : ℝ) < 0.6931471803 := by norm_num
  rw [doubles]
  linarith

theorem inReach_doublingLoop {pairs : List Pair} {hops : Nat}
    (priced : ∀ p ∈ pairs, p.hasPrice = true) (distinct : (pairs.map Pair.address).Nodup)
    (doubles : doublingQuotes ⊆ exactQuotes pairs) (two : 2 ≤ hops) :
    InReach pairs (exactLimits hops) 1 doublingLoop := by
  refine ⟨priced, distinct, ⟨List.cons_ne_nil _ _, ?walk, by simp [doublingLoop]⟩,
    by simp [doublingLoop], ?enough, two, ?light⟩
  case walk =>
    have first : ⟨0, 0xa1, 1, 2, 0, 0⟩ ∈ exactQuotes pairs := doubles (by simp [doublingQuotes])
    have second : ⟨1, 0xa2, 2, 1, -Real.log 2, Real.log 2⟩ ∈ exactQuotes pairs :=
      doubles (by simp [doublingQuotes])
    exact ⟨mem_edges_ofQuotes.mpr ⟨_, first, Or.inl rfl⟩, rfl,
      mem_edges_ofQuotes.mpr ⟨_, second, Or.inl rfl⟩, rfl, rfl⟩
  case enough => exact (by decide : 2 ≤ defaultPasses + 1)
  case light =>
    exact lt_neg_iff_add_neg.mpr (light_of_doubling (by decide) (by simp [doublingLoop]))

/-- The two pools alone show their loop. -/
theorem doubling_loop_is_found :
    InReach doublingPools (exactLimits maxHops) 1 doublingLoop ∧ 0 ≤ (exactLimits maxHops).epsilon ∧
      (ofPairsExact doublingPools).strongestLoop (exactLimits maxHops) 1 ≠ none := by
  have quotes := exactQuotes_pools.1
  have reach : InReach doublingPools (exactLimits maxHops) 1 doublingLoop :=
    inReach_doublingLoop (by decide) (by decide) (quotes ▸ List.Subset.refl _) (by decide)
  have nonneg := exactLimits_nonneg maxHops
  refine ⟨reach, nonneg, fun lost => ?_⟩
  obtain ⟨_, _, reason⟩ := reach.hidden_iff nonneg
  rcases reason lost with ⟨ring, isRing, light⟩ | ⟨long, isLoop, _, tooLong, _⟩
  · have touches : ∀ e ∈ (ofPairsExact doublingPools).edges, e.source ≠ 1 → e.target = 1 := by
      rw [ofPairsExact, quotes]
      refine forall_mem_edges_ofQuotes.mpr ?_
      simp [doublingQuotes, Quote.forward, Quote.backward]
    have gain := isRing.totalWeight_nonneg fun e member source target =>
      absurd (touches e member source) target
    linarith
  · have known : (ofPairsExact doublingPools).tokens.length = 2 := by
      rw [ofPairsExact, quotes]
      rfl
    have short := isLoop.length_le fun e edge => (placed_insertQuotes _ e edge).1
    rw [known] at short
    exact absurd (tooLong.trans_le short) (by decide)

theorem undercut_of_ring {e : RateEdge ℝ} (target : e.target = 2) (weight : 0 ≤ e.weight) :
    Undercut (empty.insertQuotes ringQuotes) (exactLimits maxHops) 1 e := by
  refine ⟨[⟨0, 0xa1, 1, 2, true, 0⟩, ⟨2, 0xa3, 2, 3, true, -Real.log 2⟩, ⟨3, 0xa4, 3, 4, true, 0⟩,
    ⟨4, 0xa5, 4, 2, true, 0⟩], ?walk, by simp, by decide, ?cheaper⟩
  case walk =>
    rw [target]
    simp [IsWalk, mem_edges_ofQuotes, ringQuotes, doublingQuotes, Quote.forward, Quote.backward]
  case cheaper => exact (light_of_doubling (by decide) (by simp)).trans_le weight

theorem undercut_of_detour {e : RateEdge ℝ} (target : e.target = 2) (weight : 0 ≤ e.weight) :
    Undercut (empty.insertQuotes detourQuotes) (exactLimits 2) 1 e := by
  refine ⟨[⟨2, 0xa3, 1, 3, true, -Real.log 2⟩, ⟨3, 0xa4, 3, 2, true, 0⟩], ?walk, by simp,
    by decide, ?cheaper⟩
  case walk =>
    rw [target]
    simp [IsWalk, mem_edges_ofQuotes, detourQuotes, doublingQuotes, Quote.forward, Quote.backward]
  case cheaper => exact (light_of_doubling (by decide) (by simp)).trans_le weight

theorem leaves_base_of_ring : ∀ e ∈ (empty.insertQuotes ringQuotes).edges,
    e.source = 1 → e.target = 2 ∧ 0 ≤ e.weight := by
  have gain : 0 ≤ Real.log 2 := (Real.log_pos one_lt_two).le
  refine forall_mem_edges_ofQuotes.mpr ?_
  simp [ringQuotes, doublingQuotes, Quote.forward, Quote.backward, gain]

theorem leaves_base_of_detour : ∀ e ∈ (empty.insertQuotes detourQuotes).edges,
    e.source = 1 → e.target = 2 ∧ 0 ≤ e.weight ∨ e.target = 3 ∧ e.pair = 0xa3 := by
  have gain : 0 ≤ Real.log 2 := (Real.log_pos one_lt_two).le
  refine forall_mem_edges_ofQuotes.mpr ?_
  simp [detourQuotes, doublingQuotes, Quote.forward, Quote.backward, gain]

theorem enters_base_of_detour : ∀ e ∈ (empty.insertQuotes detourQuotes).edges,
    e.source = 3 → e.target = 1 → e.pair = 0xa3 := by
  refine forall_mem_edges_ofQuotes.mpr ?_
  simp [detourQuotes, doublingQuotes, Quote.forward, Quote.backward]

/-- Of the detour two hops are too few: the way to the second token is longer, and the
third token only goes back by the pair that it was reached by. -/
theorem strongestLoop_detour :
    (empty.insertQuotes detourQuotes).strongestLoop (exactLimits 2) 1 = none := by
  by_contra found
  obtain ⟨l, found⟩ := Option.ne_none_iff_exists'.mp found
  obtain ⟨c, closing, front, whole, trail, short, distinct, _⟩ := exists_trail_of_strongestLoop found
  obtain ⟨member, target, _⟩ := mem_closings.mp closing
  have sound := sound_labelled (empty.insertQuotes detourQuotes) (exactLimits 2) 1
  have away : c.2.source ≠ 1 := target ▸ source_ne_target_ofQuotes
    (by simp [detourQuotes, doublingQuotes]) c.2 member
  obtain ⟨before, e, rfl, via, first⟩ := (trail_iff_of_ne away).mp trail
  rw [whole, List.length_append, List.length_append] at short
  obtain rfl : before = [] := by
    have single : before.length + 1 + 1 ≤ 2 := short
    exact List.length_eq_zero_iff.mp (by omega)
  obtain ⟨l, label, via⟩ := Option.bind_eq_some_iff.mp via
  obtain ⟨member', target', _⟩ := sound.via_mem label via
  have source : e.source = 1 := (first.isWalk sound).symm
  rcases leaves_base_of_detour e member' source with ⟨second, weight⟩ | ⟨third, pair⟩
  · exact (undercut_of_detour second weight).via_ne (exactLimits_nonneg 2) source
      (target' ▸ label) via
  · have pair' := enters_base_of_detour c.2 member (target'.symm.trans third) target
    rw [whole] at distinct
    simp [pair, pair'] at distinct

/-- A ring beside the base takes over the label that a loop in reach needs, and so does a
longer way to its token under a limit of two hops. -/
theorem ring_or_detour_hides_loop :
    (InReach ringPools (exactLimits maxHops) 1 doublingLoop ∧
      (ofPairsExact ringPools).strongestLoop (exactLimits maxHops) 1 = none) ∧
    InReach detourPools (exactLimits 2) 1 doublingLoop ∧
      (ofPairsExact detourPools).strongestLoop (exactLimits 2) 1 = none := by
  obtain ⟨_, ring, detour⟩ := exactQuotes_pools
  refine ⟨⟨?ringReach, ?ringNone⟩, ?detourReach, ?detourNone⟩
  case ringReach =>
    exact inReach_doublingLoop (by decide) (by decide) (ring ▸ List.subset_append_left _ _) (by decide)
  case ringNone =>
    rw [ofPairsExact, ring]
    refine strongestLoop_eq_none_of_undercut (exactLimits_nonneg maxHops)
      (source_ne_target_ofQuotes (by simp [ringQuotes, doublingQuotes])) fun e member source => ?_
    obtain ⟨target, weight⟩ := leaves_base_of_ring e member source
    exact undercut_of_ring target weight
  case detourReach =>
    exact inReach_doublingLoop (by decide) (by decide) (detour ▸ List.subset_append_left _ _)
      (by decide)
  case detourNone =>
    rw [ofPairsExact, detour]
    exact strongestLoop_detour

end Pools

end RateGraph

end SwapLoops
