import SwapLoops.Proofs.RateGraph.Relaxation

/-! The trail of labels from the base to a token, and the loop that an edge back into the
base closes with it. -/

namespace SwapLoops.RateGraph

variable {W : Type}

/-- The hops by which a token was reached, as the labels tell it. -/
inductive Trail (labels : Labels W) (base : Address) : List (RateEdge W) → Address → Prop
  | start : Trail labels base [] base
  | step {hops : List (RateEdge W)} {e : RateEdge W} {token : Address} {l : Label W}
      (before : Trail labels base hops e.source) (label : labels[token]? = some l)
      (via : l.via = some e) : Trail labels base (hops ++ [e]) token

theorem trail_iff_of_ne {labels : Labels W} {base token : Address} {hops : List (RateEdge W)}
    (away : token ≠ base) :
    Trail labels base hops token ↔ ∃ front e, hops = front ++ [e] ∧
      labels[token]?.bind Label.via = some e ∧ Trail labels base front e.source := by
  constructor
  · intro trail
    cases trail with
    | start => exact absurd rfl away
    | @step front e _ l before label via =>
      exact ⟨front, e, rfl, by rw [label, Option.bind_some, via], before⟩
  · rintro ⟨front, e, rfl, via, before⟩
    obtain ⟨l, label, via⟩ := Option.bind_eq_some_iff.mp via
    exact before.step label via

section Trails

variable [Zero W] {g : RateGraph W} {base token : Address} {labels : Labels W}
  {hops hops' : List (RateEdge W)} {e : RateEdge W} {l : Label W}

theorem Sound.via_mem (sound : Sound g base labels) (label : labels[token]? = some l)
    (via : l.via = some e) : e ∈ g.edges ∧ e.target = token ∧ token ≠ base := by
  have away : token ≠ base := by
    rintro rfl
    rw [sound.pinned, Option.some.injEq] at label
    subst label
    cases via
  obtain ⟨e', member, via', target, _⟩ := sound.reached label away
  rw [via, Option.some.injEq] at via'
  subst via'
  exact ⟨member, target, away⟩

theorem Trail.isWalk (trail : Trail labels base hops token) (sound : Sound g base labels) :
    g.IsWalk base hops token := by
  induction trail with
  | start => rfl
  | step _ label via ih =>
    obtain ⟨member, target, _⟩ := sound.via_mem label via
    exact isWalk_concat.mpr ⟨ih, member, target⟩

theorem Trail.avoids (trail : Trail labels base hops token) (sound : Sound g base labels) :
    base ∉ hops.map RateEdge.target := by
  induction trail with
  | start => exact List.not_mem_nil
  | step _ label via ih =>
    obtain ⟨_, target, away⟩ := sound.via_mem label via
    rw [List.map_append, List.mem_append, List.map_singleton, List.mem_singleton, target]
    exact not_or.mpr ⟨ih, away.symm⟩

theorem Trail.ne_base (trail : Trail labels base hops token) (sound : Sound g base labels)
    (nonempty : hops ≠ []) : token ≠ base := by
  cases trail with
  | start => exact absurd rfl nonempty
  | step _ label via => exact (sound.via_mem label via).2.2

theorem Trail.unique (trail : Trail labels base hops token) (sound : Sound g base labels)
    (trail' : Trail labels base hops' token) : hops = hops' := by
  induction trail generalizing hops' with
  | start =>
    cases trail' with
    | start => rfl
    | step _ label via => exact absurd rfl (sound.via_mem label via).2.2
  | step _ label via ih =>
    cases trail' with
    | start => exact absurd rfl (sound.via_mem label via).2.2
    | step before' label' via' =>
      rw [label, Option.some.injEq] at label'
      subst label'
      rw [via, Option.some.injEq] at via'
      subst via'
      rw [ih before']

/-- A trail passes each of its tokens by that token's own trail. -/
theorem Trail.exists_front (trail : Trail labels base hops token) (sound : Sound g base labels)
    {passed : Address} (member : passed ∈ hops.map RateEdge.target) :
    ∃ front, front <+: hops ∧ Trail labels base front passed := by
  induction trail with
  | start => cases member
  | @step hops e token l before label via ih =>
    rw [List.map_append, List.mem_append, List.map_singleton, List.mem_singleton,
      (sound.via_mem label via).2.1] at member
    rcases member with member | rfl
    · obtain ⟨front, here, trail⟩ := ih member
      exact ⟨front, here.trans (List.prefix_append _ _), trail⟩
    · exact ⟨hops ++ [e], List.prefix_rfl, before.step label via⟩

theorem Trail.targets_nodup (trail : Trail labels base hops token) (sound : Sound g base labels) :
    (hops.map RateEdge.target).Nodup := by
  induction trail with
  | start => exact List.nodup_nil
  | @step hops e token l before label via ih =>
    have target := (sound.via_mem label via).2.1
    have fresh : token ∉ hops.map RateEdge.target := by
      intro member
      obtain ⟨front, here, trail⟩ := before.exists_front sound member
      have same := trail.unique sound (before.step label via)
      have longer := here.length_le
      rw [same, List.length_append, List.length_singleton] at longer
      omega
    rw [List.map_append, List.map_singleton, target]
    exact List.nodup_append.mpr ⟨ih, List.nodup_singleton _, by
      intro a member b here same
      rw [List.mem_singleton] at here
      exact fresh (here ▸ same ▸ member)⟩

/-- A new label only matters to the trails that pass its token. -/
theorem Trail.insert (trail : Trail labels base hops token) (sound : Sound g base labels)
    {improved : Address} (fresh : improved ∉ hops.map RateEdge.target) (l : Label W) :
    Trail (labels.insert improved l) base hops token := by
  induction trail with
  | start => exact .start
  | step _ label via ih =>
    rw [List.map_append, List.mem_append, List.map_singleton, List.mem_singleton,
      (sound.via_mem label via).2.1, not_or] at fresh
    exact (ih fresh.1).step (by rwa [getElem?_insert, if_neg fresh.2]) via

theorem Trail.isLoop (trail : Trail labels base hops e.source) (sound : Sound g base labels)
    (member : e ∈ g.edges) (target : e.target = base) : g.IsLoop base (hops ++ [e]) where
  nonempty := List.concat_ne_nil e hops
  walk := isWalk_concat.mpr ⟨trail.isWalk sound, member, target⟩
  simple := by
    rw [List.map_append, List.map_singleton, (trail.isWalk sound).tokens, List.nodup_cons]
    exact ⟨trail.avoids sound, trail.targets_nodup sound⟩

end Trails

section TraceBack

variable {g : RateGraph W} {base : Address} {labels : Labels W} {e : RateEdge W}
  {behind hops : List (RateEdge W)} {n : Nat}

/-- The hops are an edge in front of others that are known, behind the trail of its source,
which is shorter than `n`. They repeat neither a pair nor a token. -/
def Completes (labels : Labels W) (base : Address) (n : Nat) (e : RateEdge W)
    (behind hops : List (RateEdge W)) : Prop :=
  ∃ front, hops = front ++ e :: behind ∧ Trail labels base front e.source ∧ front.length < n ∧
    (hops.map RateEdge.pair).Nodup ∧ (hops.map RateEdge.source).Nodup

theorem Completes.fresh (completes : Completes labels base n e behind hops) :
    e.pair ∉ behind.map RateEdge.pair ∧ e.source ∉ behind.map RateEdge.source := by
  obtain ⟨front, rfl, _, _, pairs, sources⟩ := completes
  exact ⟨fresh_of_nodup_map pairs, fresh_of_nodup_map sources⟩

theorem completes_iff_of_base [Zero W] (sound : Sound g base labels) (home : e.source = base)
    (pairs : ((e :: behind).map RateEdge.pair).Nodup)
    (sources : ((e :: behind).map RateEdge.source).Nodup) :
    Completes labels base (n + 1) e behind hops ↔ e :: behind = hops := by
  constructor
  · rintro ⟨front, rfl, trail, _⟩
    rw [home] at trail
    rw [trail.unique sound .start, List.nil_append]
  · rintro rfl
    exact ⟨[], rfl, home ▸ .start, Nat.succ_pos n, pairs, sources⟩

theorem completes_iff_of_ne (away : e.source ≠ base) :
    Completes labels base (n + 1) e behind hops ↔
      ∃ previous, labels[e.source]?.bind Label.via = some previous ∧
        Completes labels base n previous (e :: behind) hops := by
  simp only [Completes, trail_iff_of_ne away]
  constructor
  · rintro ⟨_, whole, ⟨front, previous, rfl, via, trail⟩, short, distinct⟩
    rw [List.length_append, List.length_singleton] at short
    rw [List.append_assoc, List.singleton_append] at whole
    exact ⟨previous, via, front, whole, trail, Nat.lt_of_succ_lt_succ short, distinct⟩
  · rintro ⟨previous, via, front, whole, trail, short, distinct⟩
    refine ⟨front ++ [previous], ?_, ⟨front, previous, rfl, via, trail⟩, ?_, distinct⟩
    · rw [whole, List.append_assoc, List.singleton_append]
    · rw [List.length_append, List.length_singleton]
      exact Nat.succ_lt_succ short

theorem traceBack_eq_some_iff_completes [Zero W] (sound : Sound g base labels) (n : Nat)
    (e : RateEdge W) (behind : List (RateEdge W)) (pairs : (behind.map RateEdge.pair).Nodup)
    (sources : (base :: behind.map RateEdge.source).Nodup) :
    traceBack base labels n e behind = some hops ↔ Completes labels base n e behind hops := by
  induction n generalizing e behind with
  | zero => simp [traceBack, Completes]
  | succ n ih =>
    have pairSeen : behind.any (·.pair = e.pair) = true ↔ e.pair ∈ behind.map RateEdge.pair := by
      simp
    have tokenSeen : behind.any (·.source = e.source) = true ↔
        e.source ∈ behind.map RateEdge.source := by
      simp
    obtain ⟨baseFresh, distinct⟩ := List.nodup_cons.mp sources
    rw [traceBack]
    split_ifs with samePair home sameToken
    · exact iff_of_false (fun found => by cases found)
        fun completes => completes.fresh.1 (pairSeen.mp samePair)
    · have pairs' := List.nodup_cons.mpr ⟨mt pairSeen.mpr samePair, pairs⟩
      have sources' := List.nodup_cons.mpr ⟨home ▸ baseFresh, distinct⟩
      rw [completes_iff_of_base sound home pairs' sources', Option.some.injEq]
    · exact iff_of_false (fun found => by cases found)
        fun completes => completes.fresh.2 (tokenSeen.mp sameToken)
    · have pairs' := List.nodup_cons.mpr ⟨mt pairSeen.mpr samePair, pairs⟩
      have sources' : (base :: (e :: behind).map RateEdge.source).Nodup := by
        refine List.nodup_cons.mpr ⟨?_, List.nodup_cons.mpr ⟨mt tokenSeen.mpr sameToken, distinct⟩⟩
        rw [List.map_cons, List.mem_cons]
        exact not_or.mpr ⟨Ne.symm home, baseFresh⟩
      rw [completes_iff_of_ne home]
      cases labels[e.source]?.bind Label.via with
      | none => simp
      | some previous =>
        simp only [Option.some.injEq, exists_eq_left']
        exact ih previous (e :: behind) pairs' sources'

/-- From a closing edge the labels lead back to the base along the trail of its source, if
the loop is short enough and goes through distinct pairs. -/
theorem traceBack_eq_some_iff [Zero W] (sound : Sound g base labels) (member : e ∈ g.edges)
    (target : e.target = base) :
    traceBack base labels n e [] = some hops ↔
      ∃ front, hops = front ++ [e] ∧ Trail labels base front e.source ∧
        hops.length ≤ n ∧ (hops.map RateEdge.pair).Nodup := by
  rw [traceBack_eq_some_iff_completes sound n e [] List.nodup_nil (List.nodup_singleton base)]
  refine exists_congr fun front => ?_
  constructor
  · rintro ⟨rfl, trail, short, pairs, _⟩
    exact ⟨rfl, trail, by rwa [List.length_append, List.length_singleton], pairs⟩
  · rintro ⟨rfl, trail, short, pairs⟩
    rw [List.length_append, List.length_singleton] at short
    exact ⟨rfl, trail, short, pairs, (trail.isLoop sound member target).simple⟩

end TraceBack

section Closings

variable [Add W] [Neg W] [LT W] [DecidableLT W] {g : RateGraph W} {limits : Limits W}
  {base : Address}

theorem mem_closings {labels : Labels W} {c : W × RateEdge W} :
    c ∈ g.closings limits base labels ↔ c.2 ∈ g.edges ∧ c.2.target = base ∧
      ∃ l, labels[c.2.source]? = some l ∧ c.1 = l.distance + c.2.weight ∧ c.1 < -limits.epsilon := by
  obtain ⟨closing, e⟩ := c
  unfold closings
  rw [List.mem_mergeSort, List.mem_filterMap]
  simp only [List.mem_reverse]
  constructor
  · rintro ⟨e', member, closes⟩
    split_ifs at closes with target
    split at closes
    · next l label =>
      split_ifs at closes with negative
      cases closes
      exact ⟨member, target, l, label, rfl, negative⟩
    · cases closes
  · rintro ⟨member, target, l, label, rfl, negative⟩
    refine ⟨e, member, ?_⟩
    rw [if_pos target, label]
    exact if_pos negative

variable [Zero W] [Sub W]

theorem exists_trail_of_strongestLoop {l : FoundLoop W}
    (found : g.strongestLoop limits base = some l) :
    ∃ c ∈ g.closings limits base (g.labelled limits base), ∃ front, l.hops = front ++ [c.2] ∧
      Trail (g.labelled limits base) base front c.2.source ∧ l.hops.length ≤ limits.hops ∧
      (l.hops.map RateEdge.pair).Nodup ∧ l.totalWeight = totalWeight l.hops := by
  unfold strongestLoop at found
  split_ifs at found
  obtain ⟨c, member, traced⟩ := List.exists_of_findSome?_eq_some found
  obtain ⟨hops, back, rfl⟩ := Option.map_eq_some_iff.mp traced
  obtain ⟨edge, target, _⟩ := mem_closings.mp member
  obtain ⟨front, whole, trail, short, pairs⟩ :=
    (traceBack_eq_some_iff (sound_labelled g limits base) edge target).mp back
  exact ⟨c, member, front, whole, trail, short, pairs, rfl⟩

theorem strongestLoop_eq_of_head (two : 2 ≤ g.tokens.length) (known : g.knows base = true)
    {c : W × RateEdge W} {rest : List (W × RateEdge W)}
    (first : g.closings limits base (g.labelled limits base) = c :: rest) {hops : List (RateEdge W)}
    (traced : traceBack base (g.labelled limits base) limits.hops c.2 [] = some hops) :
    g.strongestLoop limits base = some ⟨hops, totalWeight hops⟩ := by
  unfold strongestLoop
  rw [if_neg (not_or.mpr ⟨Nat.not_lt.mpr two, by simp [known]⟩)]
  dsimp only
  rw [first, List.findSome?_cons, traced]
  rfl

theorem strongestLoop_eq_none_iff (two : 2 ≤ g.tokens.length) (known : g.knows base = true) :
    g.strongestLoop limits base = none ↔
      ∀ c ∈ g.closings limits base (g.labelled limits base),
        traceBack base (g.labelled limits base) limits.hops c.2 [] = none := by
  unfold strongestLoop
  rw [if_neg (not_or.mpr ⟨Nat.not_lt.mpr two, by simp [known]⟩)]
  simp only [List.findSome?_eq_none_iff, Option.map_eq_none_iff]

end Closings

end SwapLoops.RateGraph
