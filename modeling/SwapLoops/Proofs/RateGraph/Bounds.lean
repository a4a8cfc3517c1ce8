import SwapLoops.Proofs.RateGraph.FoundLoops

/-! Upper bounds for exact weights. After some passes no token is further from the base
than along any walk of so many hops, up to the tolerance at each hop. And as long as no
ring away from the base is cheaper than the tolerance, the labels lead back to the base. -/

namespace SwapLoops.RateGraph

variable {W : Type} [AddCommGroup W] [LinearOrder W] [IsOrderedAddMonoid W] {g : RateGraph W}
  {base token : Address} {epsilon : W} {labels labels' : Labels W} {limits : Limits W}

theorem tolerant_of_nonneg (nonneg : 0 ≤ epsilon) (a b : W) (better : a < b - epsilon) : a ≤ b :=
  better.le.trans (sub_le_self b nonneg)

def Within (labels : Labels W) (token : Address) (distance : W) : Prop :=
  ∃ l, labels[token]? = some l ∧ l.distance ≤ distance

theorem Relaxes.within (nonneg : 0 ≤ epsilon) (relaxes : Relaxes g base epsilon labels labels')
    {distance : W} (within : Within labels token distance) : Within labels' token distance := by
  obtain ⟨l, label, bound⟩ := within
  obtain ⟨l', label', lower⟩ := relaxes.lowers (tolerant_of_nonneg nonneg) label
  exact ⟨l', label', lower.trans bound⟩

theorem within_relaxEdge (nonneg : 0 ≤ epsilon) {state : Labels W × Bool} {e : RateEdge W}
    (away : e.target ≠ base) {distance : W} (within : Within state.1 e.source distance) :
    Within (relaxEdge base epsilon state e).1 e.target (distance + e.weight + epsilon) := by
  obtain ⟨l, source, bound⟩ := within
  have candidate : l.distance + e.weight ≤ distance + e.weight := add_le_add_left bound _
  unfold relaxEdge
  rw [if_neg away, source]
  dsimp only
  split_ifs with better
  · refine ⟨_, Std.ExtTreeMap.getElem?_insert_self, ?_⟩
    exact candidate.trans (le_add_of_nonneg_right nonneg)
  · cases target : state.1[e.target]? with
    | none =>
      rw [target] at better
      exact absurd rfl better
    | some l' =>
      rw [target, improves, decide_eq_true_eq, not_lt, sub_le_iff_le_add] at better
      exact ⟨l', target, better.trans (add_le_add_left candidate _)⟩

theorem within_relaxPass (nonneg : 0 ≤ epsilon) {e : RateEdge W} (member : e ∈ g.edges)
    (away : e.target ≠ base) {distance : W} (within : Within labels e.source distance) :
    Within (relaxPass base epsilon g.edges labels).1 e.target (distance + e.weight + epsilon) := by
  obtain ⟨before, after, edges⟩ := List.append_of_mem member
  have keeps : ∀ {token distance} {part : List (RateEdge W)} {state : Labels W × Bool},
      part ⊆ g.edges → Within state.1 token distance →
        Within (part.foldl (relaxEdge base epsilon) state).1 token distance :=
    fun inside => foldl_relaxEdge_induction (fun _ _ relaxes => relaxes.within nonneg) inside
  rw [relaxPass, edges, List.foldl_append, List.foldl_cons]
  apply keeps
  · rw [edges]
    exact fun e' inside => List.mem_append_right _ (List.mem_cons_of_mem _ inside)
  · apply within_relaxEdge nonneg away
    apply keeps _ within
    rw [edges]
    exact List.subset_append_left before _

/-- Each pass follows one more hop of every walk. -/
theorem within_relax (nonneg : 0 ≤ epsilon) {hops : List (RateEdge W)} {a b : Address}
    (walk : g.IsWalk a hops b) (away : base ∉ hops.map RateEdge.target) {n : Nat}
    (enough : hops.length ≤ n) {distance : W} (within : Within labels a distance) :
    Within (relax base epsilon g.edges n labels) b
      (distance + totalWeight hops + hops.length • epsilon) := by
  induction hops generalizing a n labels distance with
  | nil =>
    obtain rfl : a = b := walk
    rw [totalWeight_nil, add_zero, List.length_nil, zero_nsmul, add_zero]
    exact relax_induction (fun _ _ relaxes => relaxes.within nonneg) n within
  | cons e hops ih =>
    obtain ⟨member, rfl, rest⟩ := walk
    rw [List.map_cons, List.mem_cons, not_or] at away
    cases n with
    | zero => cases enough
    | succ n =>
      have passed := within_relaxPass nonneg member (Ne.symm away.1) within
      have further := ih rest away.2 (Nat.le_of_succ_le_succ enough) passed
      have total : distance + e.weight + epsilon + totalWeight hops + hops.length • epsilon =
          distance + totalWeight (e :: hops) + (e :: hops).length • epsilon := by
        rw [totalWeight_cons, List.length_cons, succ_nsmul]
        abel
      rwa [relax_succ, ← total]

theorem within_labelled (nonneg : 0 ≤ limits.epsilon) {hops : List (RateEdge W)}
    (walk : g.IsWalk base hops token) (away : base ∉ hops.map RateEdge.target)
    (enough : hops.length ≤ g.passCount limits) :
    Within (g.labelled limits base) token (totalWeight hops + hops.length • limits.epsilon) := by
  have first : Within (start base) base (0 : W) := ⟨⟨0, none⟩, sound_start (g := g).pinned, le_rfl⟩
  have reached := within_relax nonneg walk away enough first
  rwa [zero_add] at reached

/-- A loop that is short enough for the passes, and light enough for the tolerance at each
of its hops, is closed by its last hop at about its weight. -/
theorem IsLoop.exists_closing (nonneg : 0 ≤ limits.epsilon) {hops : List (RateEdge W)}
    (cheap : g.IsLoop base hops) (enough : hops.length ≤ g.passCount limits + 1)
    (light : totalWeight hops < -(hops.length • limits.epsilon)) :
    ∃ c ∈ g.closings limits base (g.labelled limits base),
      c.1 ≤ totalWeight hops + (hops.length - 1) • limits.epsilon := by
  obtain rfl | ⟨front, e, rfl⟩ := hops.eq_nil_or_concat'
  · exact absurd rfl cheap.nonempty
  · obtain ⟨walk, member, target⟩ := isWalk_concat.mp cheap.walk
    have distinct := cheap.simple
    rw [List.map_append, List.map_singleton, walk.tokens, List.nodup_cons] at distinct
    rw [List.length_append, List.length_singleton] at enough light ⊢
    obtain ⟨l, label, bound⟩ :=
      within_labelled nonneg walk distinct.1 (Nat.le_of_succ_le_succ enough)
    have closes : l.distance + e.weight ≤
        totalWeight (front ++ [e]) + (front.length + 1 - 1) • limits.epsilon := by
      rw [totalWeight_append, totalWeight_cons, totalWeight_nil, add_zero, Nat.add_sub_cancel,
        add_right_comm]
      exact add_le_add_left bound _
    refine ⟨(l.distance + e.weight, e), mem_closings.mpr ⟨member, target, l, label, rfl, ?_⟩, closes⟩
    calc l.distance + e.weight
        ≤ totalWeight (front ++ [e]) + front.length • limits.epsilon := closes
      _ < -((front.length + 1) • limits.epsilon) + front.length • limits.epsilon :=
        add_lt_add_left light _
      _ = -limits.epsilon := by rw [succ_nsmul]; abel

theorem Trail.exists_walk_from {hops : List (RateEdge W)} (trail : Trail labels base hops token)
    (sound : Sound g base labels) (slack : Slack labels) {passed : Address}
    (member : passed ∈ hops.map RateEdge.target) {l : Label W} (label : labels[token]? = some l) :
    ∃ rest l', labels[passed]? = some l' ∧ g.IsWalk passed rest token ∧
      base ∉ rest.map RateEdge.source ∧ l'.distance + totalWeight rest ≤ l.distance := by
  induction trail generalizing l with
  | start => cases member
  | @step hops e token l₀ before label' via ih =>
    rw [label', Option.some.injEq] at label
    subst label
    obtain ⟨edge, target, away⟩ := sound.via_mem label' via
    rw [List.map_append, List.mem_append, List.map_singleton, List.mem_singleton, target] at member
    rcases member with member | rfl
    · obtain ⟨lBefore, labelBefore, lower⟩ := slack label' via
      obtain ⟨rest, l', labelPassed, walk, avoids, bound⟩ := ih member labelBefore
      refine ⟨rest ++ [e], l', labelPassed, isWalk_concat.mpr ⟨walk, edge, target⟩, ?_, ?_⟩
      · rw [List.map_append, List.mem_append, List.map_singleton, List.mem_singleton]
        have nonempty : hops ≠ [] := List.ne_nil_of_mem (List.mem_map.mp member).choose_spec.1
        exact not_or.mpr ⟨avoids, (before.ne_base sound nonempty).symm⟩
      · rw [totalWeight_append, totalWeight_cons, totalWeight_nil, add_zero, ← add_assoc]
        exact (add_le_add_left bound _).trans lower
    · exact ⟨[], l₀, label', rfl, List.not_mem_nil, (add_zero _).le⟩

/-- To reach a token from its own trail closes a ring below the tolerance. -/
theorem Trail.exists_ring {hops : List (RateEdge W)} {e : RateEdge W} {l : Label W}
    (trail : Trail labels base hops e.source) (sound : Sound g base labels) (slack : Slack labels)
    (member : e ∈ g.edges) (source : labels[e.source]? = some l)
    (better : improves epsilon (l.distance + e.weight) labels[e.target]? = true)
    (passed : e.target ∈ hops.map RateEdge.target) :
    ∃ ring, g.IsRing base ring ∧ totalWeight ring < -epsilon := by
  obtain ⟨rest, l', label, walk, avoids, bound⟩ :=
    trail.exists_walk_from sound slack passed source
  have nonempty : hops ≠ [] := List.ne_nil_of_mem (List.mem_map.mp passed).choose_spec.1
  refine ⟨rest ++ [e], ⟨List.concat_ne_nil e rest, ?_, ?_⟩, ?_⟩
  · exact ⟨e.target, isWalk_concat.mpr ⟨walk, member, rfl⟩⟩
  · rw [List.map_append, List.mem_append, List.map_singleton, List.mem_singleton]
    exact not_or.mpr ⟨avoids, (trail.ne_base sound nonempty).symm⟩
  · rw [label, improves, decide_eq_true_eq] at better
    rw [totalWeight_append, totalWeight_cons, totalWeight_nil, add_zero]
    have lower : l'.distance + (totalWeight rest + e.weight) < l'.distance + -epsilon := by
      rw [← add_assoc, ← sub_eq_add_neg]
      exact (add_le_add_left bound _).trans_lt better
    exact lt_of_add_lt_add_left lower

def Rooted (base : Address) (labels : Labels W) : Prop :=
  ∀ ⦃token : Address⦄ ⦃l : Label W⦄, labels[token]? = some l → ∃ hops, Trail labels base hops token

theorem Relaxes.rooted (light : ∀ ring, g.IsRing base ring → -epsilon ≤ totalWeight ring)
    (relaxes : Relaxes g base epsilon labels labels') (sound : Sound g base labels)
    (slack : Slack labels) (rooted : Rooted base labels) : Rooted base labels' := by
  obtain @⟨e, l, member, away, source, better⟩ := relaxes
  obtain ⟨hops, trail⟩ := rooted source
  have fresh : e.target ∉ hops.map RateEdge.target := by
    intro passed
    obtain ⟨ring, isRing, cheap⟩ := trail.exists_ring sound slack member source better passed
    exact (cheap.trans_le (light ring isRing)).false
  have improved := (trail.insert sound fresh ⟨l.distance + e.weight, some e⟩).step
    Std.ExtTreeMap.getElem?_insert_self rfl
  -- a trail that passed the improved token goes on from its new trail
  have redirected : ∀ {token hops}, Trail labels base hops token →
      ∃ hops', Trail (labels.insert e.target ⟨l.distance + e.weight, some e⟩) base hops' token := by
    intro token hops trail
    induction trail with
    | start => exact ⟨[], .start⟩
    | @step _ _ token _ _ label via ih =>
      obtain ⟨front, before⟩ := ih
      by_cases here : e.target = token
      · subst here
        exact ⟨_, improved⟩
      · exact ⟨_, before.step (by rwa [getElem?_insert, if_neg here]) via⟩
  intro token l' label
  rw [getElem?_insert] at label
  split_ifs at label with here
  · subst here
    exact ⟨_, improved⟩
  · obtain ⟨before, trail⟩ := rooted label
    exact redirected trail

/-- Without a ring below the tolerance, all labels lead back to the base. -/
theorem rooted_labelled (nonneg : 0 ≤ limits.epsilon)
    (light : ∀ ring, g.IsRing base ring → -limits.epsilon ≤ totalWeight ring) :
    Rooted base (g.labelled limits base) := by
  have invariant : ∀ labels labels', Relaxes g base limits.epsilon labels labels' →
      Sound g base labels ∧ Slack labels ∧ Rooted base labels →
      Sound g base labels' ∧ Slack labels' ∧ Rooted base labels' := by
    rintro labels labels' relaxes ⟨sound, slack, rooted⟩
    exact ⟨relaxes.sound sound, relaxes.slack (tolerant_of_nonneg nonneg) slack,
      relaxes.rooted light sound slack rooted⟩
  have first : Sound g base (start base) ∧ Slack (start base : Labels W) ∧
      Rooted base (start base : Labels W) := by
    refine ⟨sound_start, slack_start, fun token l label => ?_⟩
    obtain ⟨rfl, _⟩ := getElem?_start_eq_some_iff.mp label
    exact ⟨[], .start⟩
  exact (labelled_induction first invariant).2.2

end SwapLoops.RateGraph
