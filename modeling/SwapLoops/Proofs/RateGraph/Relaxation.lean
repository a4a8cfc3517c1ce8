import SwapLoops.Proofs.RateGraph.Walks

/-! What relaxing edges does to the labels, one improvement at a time: which labels there
are, how they hang together and how far the distances have come down. -/

namespace SwapLoops.RateGraph

variable {W : Type}

theorem getElem?_insert (labels : Labels W) (token token' : Address) (l : Label W) :
    (labels.insert token l)[token']? = if token = token' then some l else labels[token']? := by
  rw [Std.ExtTreeMap.getElem?_insert]
  simp only [Std.LawfulEqCmp.compare_eq_iff_eq]

section Improvements

variable [Add W] [Sub W] [LT W] [DecidableLT W] {g : RateGraph W} {base : Address} {epsilon : W}
  {labels labels' : Labels W}

inductive Relaxes (g : RateGraph W) (base : Address) (epsilon : W) (labels : Labels W) :
    Labels W → Prop
  | improve {e : RateEdge W} {l : Label W} (member : e ∈ g.edges) (away : e.target ≠ base)
      (source : labels[e.source]? = some l)
      (better : improves epsilon (l.distance + e.weight) labels[e.target]? = true) :
      Relaxes g base epsilon labels (labels.insert e.target ⟨l.distance + e.weight, some e⟩)

theorem relaxEdge_cases (state : Labels W × Bool) {e : RateEdge W} (member : e ∈ g.edges) :
    relaxEdge base epsilon state e = state ∨
      Relaxes g base epsilon state.1 (relaxEdge base epsilon state e).1 ∧
        (relaxEdge base epsilon state e).2 = true := by
  unfold relaxEdge
  split_ifs with target
  · exact Or.inl rfl
  · split
    · exact Or.inl rfl
    · next l source =>
      dsimp only
      split_ifs with better
      · exact Or.inr ⟨.improve member target source better, rfl⟩
      · exact Or.inl rfl

/-- What every improvement keeps is kept by a pass over some of the edges. -/
theorem foldl_relaxEdge_induction {P : Labels W → Prop}
    (step : ∀ labels labels', Relaxes g base epsilon labels labels' → P labels → P labels')
    {edges : List (RateEdge W)} (inside : edges ⊆ g.edges) {state : Labels W × Bool}
    (first : P state.1) : P (edges.foldl (relaxEdge base epsilon) state).1 := by
  apply List.foldlRecOn (motive := fun state => P state.1) edges (relaxEdge base epsilon) first
  intro state kept e member
  rcases relaxEdge_cases state (inside member) with same | ⟨relaxes, _⟩
  · rwa [same]
  · exact step _ _ relaxes kept

theorem relaxPass_eq_of_unchanged (unchanged : (relaxPass base epsilon g.edges labels).2 = false) :
    (relaxPass base epsilon g.edges labels).1 = labels := by
  have noted := List.foldlRecOn (motive := fun state => state.2 = false → state.1 = labels)
    g.edges (relaxEdge base epsilon) (b := (labels, false)) (fun _ => rfl) ?_
  · exact noted unchanged
  · intro state kept e member
    rcases relaxEdge_cases state member with same | ⟨_, changed⟩
    · rwa [same]
    · exact fun unchanged => Bool.noConfusion (unchanged.symm.trans changed)

theorem relax_eq_of_unchanged (unchanged : (relaxPass base epsilon g.edges labels).2 = false)
    (n : Nat) : relax base epsilon g.edges n labels = labels := by
  cases n with
  | zero => rfl
  | succ n =>
    rw [relax]
    dsimp only
    rw [if_neg (Bool.eq_false_iff.mp unchanged), relaxPass_eq_of_unchanged unchanged]

theorem relax_succ (n : Nat) (labels : Labels W) :
    relax base epsilon g.edges (n + 1) labels =
      relax base epsilon g.edges n (relaxPass base epsilon g.edges labels).1 := by
  by_cases changed : (relaxPass base epsilon g.edges labels).2 = true
  · rw [relax]
    exact if_pos changed
  · have unchanged := Bool.eq_false_iff.mpr changed
    rw [relax_eq_of_unchanged unchanged, relaxPass_eq_of_unchanged unchanged,
      relax_eq_of_unchanged unchanged]

theorem relax_induction {P : Labels W → Prop}
    (step : ∀ labels labels', Relaxes g base epsilon labels labels' → P labels → P labels')
    (n : Nat) {labels : Labels W} (first : P labels) : P (relax base epsilon g.edges n labels) := by
  induction n generalizing labels with
  | zero => exact first
  | succ n ih =>
    rw [relax_succ]
    exact ih (foldl_relaxEdge_induction step (List.Subset.refl _) first)

/-- What holds at the start and is kept by every improvement holds of the final labels. -/
theorem labelled_induction [Zero W] {limits : Limits W} {P : Labels W → Prop}
    (first : P (start base))
    (step : ∀ labels labels', Relaxes g base limits.epsilon labels labels' → P labels → P labels') :
    P (g.labelled limits base) :=
  relax_induction step _ first

end Improvements

section Labels

variable [Zero W] {g : RateGraph W} {base : Address} {labels labels' : Labels W}

/-- The base has the distance zero, and any other token with a label was reached by an
edge of the graph from a token with a label. -/
structure Sound (g : RateGraph W) (base : Address) (labels : Labels W) : Prop where
  pinned : labels[base]? = some ⟨0, none⟩
  reached : ∀ ⦃token : Address⦄ ⦃l : Label W⦄, labels[token]? = some l → token ≠ base →
    ∃ e ∈ g.edges, l.via = some e ∧ e.target = token ∧ ∃ l', labels[e.source]? = some l'

theorem getElem?_start_eq_some_iff {token : Address} {l : Label W} :
    (start base)[token]? = some l ↔ base = token ∧ ⟨0, none⟩ = l := by
  rw [start, getElem?_insert, Std.ExtTreeMap.getElem?_empty]
  split_ifs with here
  · rw [Option.some.injEq, and_iff_right here]
  · exact iff_of_false (fun label => by cases label) fun start => here start.1

theorem sound_start : Sound g base (start base) where
  pinned := getElem?_start_eq_some_iff.mpr ⟨rfl, rfl⟩
  reached := fun _ _ label away => absurd (getElem?_start_eq_some_iff.mp label).1.symm away

theorem Relaxes.sound [Add W] [Sub W] [LT W] [DecidableLT W] {epsilon : W}
    (relaxes : Relaxes g base epsilon labels labels') (sound : Sound g base labels) :
    Sound g base labels' := by
  obtain @⟨e, l, member, away, source, _⟩ := relaxes
  have kept : ∀ token : Address, (∃ l, labels[token]? = some l) →
      ∃ l', (labels.insert e.target ⟨l.distance + e.weight, some e⟩)[token]? = some l' := by
    rintro token ⟨l', label⟩
    rw [getElem?_insert, label]
    split_ifs
    · exact ⟨_, rfl⟩
    · exact ⟨_, rfl⟩
  refine ⟨?pinned, ?reached⟩
  case pinned =>
    rw [getElem?_insert, if_neg away, sound.pinned]
  case reached =>
    intro token l' label elsewhere
    rw [getElem?_insert] at label
    split_ifs at label with here
    · cases label
      exact ⟨e, member, rfl, here, kept e.source ⟨l, source⟩⟩
    · obtain ⟨e', member', via, target, origin⟩ := sound.reached label elsewhere
      exact ⟨e', member', via, target, kept e'.source origin⟩

theorem sound_labelled [Add W] [Sub W] [LT W] [DecidableLT W] (g : RateGraph W)
    (limits : Limits W) (base : Address) : Sound g base (g.labelled limits base) :=
  labelled_induction sound_start fun _ _ relaxes sound => relaxes.sound sound

end Labels

section Distances

/-- The distance of a token is not less than that along the edge which it was reached by,
from what the distance of the token before it is by now. -/
def Slack [Add W] [LE W] (labels : Labels W) : Prop :=
  ∀ ⦃token : Address⦄ ⦃l : Label W⦄ ⦃e : RateEdge W⦄, labels[token]? = some l → l.via = some e →
    ∃ l', labels[e.source]? = some l' ∧ l'.distance + e.weight ≤ l.distance

theorem slack_start [Zero W] [Add W] [LE W] {base : Address} : Slack (start base : Labels W) := by
  intro token l e label via
  rw [← (getElem?_start_eq_some_iff.mp label).2] at via
  cases via

variable [Add W] [Sub W] [Preorder W] [DecidableLT W] {g : RateGraph W} {base : Address}
  {epsilon : W} {labels labels' : Labels W}

theorem Relaxes.lowers (tolerant : ∀ a b : W, a < b - epsilon → a ≤ b)
    (relaxes : Relaxes g base epsilon labels labels') {token : Address} {l : Label W}
    (label : labels[token]? = some l) :
    ∃ l', labels'[token]? = some l' ∧ l'.distance ≤ l.distance := by
  obtain ⟨_, _, _, better⟩ := relaxes
  rw [getElem?_insert]
  split_ifs with here
  · rw [here, label] at better
    exact ⟨_, rfl, tolerant _ _ (of_decide_eq_true better)⟩
  · exact ⟨l, label, le_rfl⟩

theorem Relaxes.slack [AddRightMono W] (tolerant : ∀ a b : W, a < b - epsilon → a ≤ b)
    (relaxes : Relaxes g base epsilon labels labels') (slack : Slack labels) : Slack labels' := by
  have lowers : ∀ {token : Address} {l : Label W}, labels[token]? = some l →
      ∃ l', labels'[token]? = some l' ∧ l'.distance ≤ l.distance := relaxes.lowers tolerant
  obtain ⟨_, _, source, _⟩ := relaxes
  intro token l e label via
  rw [getElem?_insert] at label
  split_ifs at label with here
  · cases label
    cases via
    obtain ⟨before, label, lower⟩ := lowers source
    exact ⟨before, label, add_le_add_left lower _⟩
  · obtain ⟨before, label, slack⟩ := slack label via
    obtain ⟨before', label', lower⟩ := lowers label
    exact ⟨before', label', (add_le_add_left lower _).trans slack⟩

theorem slack_labelled [Zero W] [AddRightMono W] {limits : Limits W}
    (tolerant : ∀ a b : W, a < b - limits.epsilon → a ≤ b) (g : RateGraph W) (base : Address) :
    Slack (g.labelled limits base) :=
  labelled_induction slack_start fun _ _ relaxes slack => relaxes.slack tolerant slack

end Distances

end SwapLoops.RateGraph
