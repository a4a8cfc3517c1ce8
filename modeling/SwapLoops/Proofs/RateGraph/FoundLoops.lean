import SwapLoops.Proofs.RateGraph.Building
import SwapLoops.Proofs.RateGraph.Trails

/-! What a loop that the search finds looks like, and what it weighs. -/

namespace SwapLoops.RateGraph

section Shape

variable {W : Type} {g : RateGraph W} {base : Address}

theorem IsLoop.two_le_length {hops : List (RateEdge W)} (found : g.IsLoop base hops)
    (apart : ∀ e ∈ g.edges, e.source ≠ e.target) : 2 ≤ hops.length := by
  obtain ⟨nonempty, walk, _⟩ := found
  match hops, nonempty with
  | [e], _ =>
    obtain ⟨member, source, target⟩ := walk
    exact absurd (source.trans (Eq.symm target)) (apart e member)
  | _ :: _ :: _, _ => simp

/-- A loop that is found is a loop through the base over distinct pairs, of at least one
hop and at most as many as allowed. A single hop is only possible along an edge from the
base to itself, which no pair has. -/
theorem isLoop_of_strongestLoop {additions : List Addition} {limits : Limits Float} {base : Address}
    {l : FoundLoop Float} (found : (ofAdditions additions).strongestLoop limits base = some l) :
    (ofAdditions additions).IsLoop base l.hops ∧ (l.hops.map RateEdge.pair).Nodup ∧
      1 ≤ l.hops.length ∧ l.hops.length ≤ limits.hops ∧
      ((∀ a ∈ additions, a.isPair = true) → 2 ≤ l.hops.length) := by
  obtain ⟨c, closing, front, whole, trail, short, pairs, _⟩ := exists_trail_of_strongestLoop found
  obtain ⟨member, target, _⟩ := mem_closings.mp closing
  have isLoop : (ofAdditions additions).IsLoop base l.hops := by
    rw [whole]
    exact trail.isLoop (sound_labelled _ limits base) member target
  refine ⟨isLoop, pairs, ?_, short, fun pairsOnly => ?_⟩
  · exact List.length_pos_iff.mpr isLoop.nonempty
  · exact isLoop.two_le_length (source_ne_target_of_isPair pairsOnly)

def sampleAdditions : List Addition :=
  [.edge ⟨0, 0xa1, 1, 2, true, 0.25⟩, .edge ⟨1, 0xa2, 2, 3, true, -0.5⟩,
    .edge ⟨2, 0xa3, 2, 4, true, 0.5⟩, .edge ⟨3, 0xa4, 4, 4, true, -1⟩,
    .pair 4 ⟨.uniswapV2, 0xa5, 1, 3, 1000, 1000, none, true, ⟨⟨1, 0, 0⟩, 0⟩, .none⟩,
    .edge ⟨5, 0xa6, 3, 1, true, -0.5⟩]

theorem isLoop_of_sampleAdditions :
    ∃ l, (ofAdditions sampleAdditions).strongestLoop ⟨defaultPasses, maxHops, noise⟩ 1 = some l ∧
      (ofAdditions sampleAdditions).IsLoop 1 l.hops ∧ (l.hops.map RateEdge.pair).Nodup ∧
      1 ≤ l.hops.length ∧ l.hops.length ≤ maxHops := by
  obtain ⟨l, found⟩ := Option.isSome_iff_exists.mp
    (by decide +kernel : ((ofAdditions sampleAdditions).strongestLoop
      ⟨defaultPasses, maxHops, noise⟩ 1).isSome = true)
  obtain ⟨isLoop, pairs, one, short, _⟩ := isLoop_of_strongestLoop found
  exact ⟨l, found, isLoop, pairs, one, short⟩

end Shape

section Weight

variable {W : Type} [Zero W] [Add W] [Preorder W] [AddRightMono W] {g : RateGraph W}
  {base : Address}

theorem Trail.distanceAfter_le {labels : Labels W} {token : Address} {hops : List (RateEdge W)}
    (trail : Trail labels base hops token) (sound : Sound g base labels) (slack : Slack labels) {l : Label W}
    (label : labels[token]? = some l) : distanceAfter 0 hops ≤ l.distance := by
  induction trail generalizing l with
  | start =>
    rw [sound.pinned, Option.some.injEq] at label
    rw [← label]
    exact le_rfl
  | step _ label' via ih =>
    rw [label', Option.some.injEq] at label
    subst label
    obtain ⟨before, labelBefore, lower⟩ := slack label' via
    rw [distanceAfter_concat]
    exact (add_le_add_left (ih labelBefore) _).trans lower

variable [Sub W] [Neg W] [DecidableLT W]

theorem Trail.totalWeight_le {limits : Limits W}
    (tolerant : ∀ a b : W, a < b - limits.epsilon → a ≤ b) {c : W × RateEdge W}
    (closing : c ∈ g.closings limits base (g.labelled limits base)) {front : List (RateEdge W)}
    (trail : Trail (g.labelled limits base) base front c.2.source) :
    totalWeight (front ++ [c.2]) ≤ c.1 := by
  obtain ⟨_, _, l, label, distance, _⟩ := mem_closings.mp closing
  rw [totalWeight_eq_distanceAfter, distanceAfter_concat, distance]
  exact add_le_add_left (trail.distanceAfter_le (sound_labelled g limits base)
    (slack_labelled tolerant g base) label) _

/-- A loop that is found weighs no more than its last hop closes at, which is less than
the tolerance below zero. Where all loops weigh more, none is found. -/
theorem totalWeight_le_closing (g : RateGraph W) (base : Address) (limits : Limits W)
    (tolerant : ∀ a b : W, a < b - limits.epsilon → a ≤ b) :
    (∀ l, g.strongestLoop limits base = some l →
      l.totalWeight = totalWeight l.hops ∧
        ∃ e label, l.hops.getLast? = some e ∧ (g.labelled limits base)[e.source]? = some label ∧
          l.totalWeight ≤ label.distance + e.weight ∧
          label.distance + e.weight < -limits.epsilon) ∧
    ((∀ hops, g.IsLoop base hops → (hops.map RateEdge.pair).Nodup →
        -limits.epsilon ≤ totalWeight hops) →
      g.strongestLoop limits base = none) := by
  have weighs : ∀ l, g.strongestLoop limits base = some l →
      g.IsLoop base l.hops ∧ (l.hops.map RateEdge.pair).Nodup ∧ l.totalWeight = totalWeight l.hops ∧
        ∃ e label, l.hops.getLast? = some e ∧ (g.labelled limits base)[e.source]? = some label ∧
          l.totalWeight ≤ label.distance + e.weight ∧
          label.distance + e.weight < -limits.epsilon := by
    intro l found
    obtain ⟨c, closing, front, whole, trail, _, pairs, total⟩ := exists_trail_of_strongestLoop found
    obtain ⟨member, target, label, labelled, distance, negative⟩ := mem_closings.mp closing
    have isLoop := trail.isLoop (sound_labelled g limits base) member target
    have bound := trail.totalWeight_le tolerant closing
    rw [← whole] at isLoop bound
    rw [distance] at bound negative
    exact ⟨isLoop, pairs, total, c.2, label, whole ▸ List.getLast?_concat, labelled, total ▸ bound,
      negative⟩
  refine ⟨fun l found => (weighs l found).2.2, fun heavy => ?_⟩
  by_contra found
  obtain ⟨l, found⟩ := Option.ne_none_iff_exists'.mp found
  obtain ⟨isLoop, pairs, total, _, _, _, _, bound, negative⟩ := weighs l found
  have weight := heavy l.hops isLoop pairs
  rw [← total] at weight
  exact ((weight.trans bound).trans_lt negative).false

/-- The second token gets its better label after the third one was reached from it. -/
def deepenedGraph : RateGraph ℚ :=
  empty.insertEdges [⟨0, 0xa1, 1, 2, true, 0⟩, ⟨1, 0xa2, 2, 3, true, 0⟩, ⟨2, 0xa3, 1, 4, true, 0⟩,
    ⟨3, 0xa4, 4, 2, true, -5⟩, ⟨4, 0xa5, 3, 1, true, -1⟩]

/-- After one pass the loop that is found weighs less than it is closed at. -/
theorem deepened_loop_le_closing :
    (∀ a b : ℚ, a < b - 1 / 1000 → a ≤ b) ∧
    ∃ l, deepenedGraph.strongestLoop ⟨1, 10, 1 / 1000⟩ 1 = some l ∧ l.totalWeight = -6 ∧
      ∃ e label, l.hops.getLast? = some e ∧
        (deepenedGraph.labelled ⟨1, 10, 1 / 1000⟩ 1)[e.source]? = some label ∧
        l.totalWeight ≤ label.distance + e.weight ∧ label.distance + e.weight < -(1 / 1000) := by
  have tolerant : ∀ a b : ℚ, a < b - 1 / 1000 → a ≤ b := by
    intro a b better
    linarith
  have weight : (deepenedGraph.strongestLoop ⟨1, 10, 1 / 1000⟩ 1).map FoundLoop.totalWeight =
      some (-6) := by decide +kernel
  obtain ⟨l, found, weight⟩ := Option.map_eq_some_iff.mp weight
  obtain ⟨_, closing⟩ := (totalWeight_le_closing deepenedGraph 1 ⟨1, 10, 1 / 1000⟩ tolerant).1 l found
  exact ⟨tolerant, l, found, weight, closing⟩

end Weight

end SwapLoops.RateGraph
