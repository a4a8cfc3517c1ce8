import Mathlib
import SwapLoops.RateGraph.Search

/-! Walks along the edges of a rate graph: loops through the base and rings away from it. -/

namespace SwapLoops.RateGraph

variable {W : Type}

def IsWalk (g : RateGraph W) : Address → List (RateEdge W) → Address → Prop
  | a, [], b => a = b
  | a, e :: hops, b => e ∈ g.edges ∧ e.source = a ∧ g.IsWalk e.target hops b

instance decidableIsWalk [DecidableEq W] (g : RateGraph W) :
    ∀ a hops b, Decidable (g.IsWalk a hops b)
  | a, [], b => inferInstanceAs (Decidable (a = b))
  | a, e :: hops, b =>
    have := g.decidableIsWalk e.target hops b
    inferInstanceAs (Decidable (e ∈ g.edges ∧ e.source = a ∧ g.IsWalk e.target hops b))

/-- A walk from the base back to it. The tokens that its hops leave, which are the base
and the tokens between, are pairwise distinct. -/
structure IsLoop (g : RateGraph W) (base : Address) (hops : List (RateEdge W)) : Prop where
  nonempty : hops ≠ []
  walk : g.IsWalk base hops base
  simple : (hops.map RateEdge.source).Nodup

instance [DecidableEq W] (g : RateGraph W) (base : Address) (hops : List (RateEdge W)) :
    Decidable (g.IsLoop base hops) :=
  decidable_of_iff (hops ≠ [] ∧ g.IsWalk base hops base ∧ (hops.map RateEdge.source).Nodup)
    ⟨fun ⟨nonempty, walk, simple⟩ => ⟨nonempty, walk, simple⟩,
      fun ⟨nonempty, walk, simple⟩ => ⟨nonempty, walk, simple⟩⟩

structure IsRing (g : RateGraph W) (base : Address) (hops : List (RateEdge W)) : Prop where
  nonempty : hops ≠ []
  closed : ∃ token, g.IsWalk token hops token
  avoids : base ∉ hops.map RateEdge.source

section Walks

variable {g : RateGraph W} {a b c : Address} {p q hops : List (RateEdge W)} {e : RateEdge W}

theorem isWalk_append : g.IsWalk a (p ++ q) c ↔ ∃ b, g.IsWalk a p b ∧ g.IsWalk b q c := by
  induction p generalizing a with
  | nil => simp [IsWalk]
  | cons e p ih => simp only [List.cons_append, IsWalk, ih, exists_and_left, and_assoc]

theorem isWalk_concat : g.IsWalk a (p ++ [e]) c ↔ g.IsWalk a p e.source ∧ e ∈ g.edges ∧ e.target = c := by
  simp only [isWalk_append, IsWalk]
  constructor
  · rintro ⟨b, walk, member, rfl, target⟩
    exact ⟨walk, member, target⟩
  · rintro ⟨walk, member, target⟩
    exact ⟨e.source, walk, member, rfl, target⟩

theorem IsWalk.mem_edges (walk : g.IsWalk a hops b) (member : e ∈ hops) : e ∈ g.edges := by
  obtain ⟨p, q, rfl⟩ := List.append_of_mem member
  obtain ⟨_, _, here, _⟩ := isWalk_append.mp walk
  exact here

theorem IsWalk.tokens (walk : g.IsWalk a hops b) :
    hops.map RateEdge.source ++ [b] = a :: hops.map RateEdge.target := by
  induction hops generalizing a with
  | nil => exact congrArg (fun token => [token]) (Eq.symm walk)
  | cons e hops ih =>
    obtain ⟨_, source, rest⟩ := walk
    rw [List.map_cons, List.map_cons, List.cons_append, ih rest, source]

theorem IsLoop.length_le (found : g.IsLoop a hops) (placed : ∀ e ∈ g.edges, e.source ∈ g.tokens) :
    hops.length ≤ g.tokens.length := by
  have inside : hops.map RateEdge.source ⊆ g.tokens := by
    intro token member
    obtain ⟨e, hop, rfl⟩ := List.mem_map.mp member
    exact placed e (found.walk.mem_edges hop)
  have bound := (found.simple.subperm inside).length_le
  rwa [List.length_map] at bound

theorem IsRing.avoids_targets (ring : g.IsRing a hops) : a ∉ hops.map RateEdge.target := by
  obtain ⟨nonempty, ⟨token, walk⟩, avoids⟩ := ring
  cases hops with
  | nil => exact absurd rfl nonempty
  | cons e hops =>
    have start : token ≠ a := by
      rintro rfl
      exact avoids (List.mem_map.mpr ⟨e, List.mem_cons_self, walk.2.1⟩)
    intro member
    have along := List.mem_cons_of_mem token member
    rw [← walk.tokens, List.mem_append, List.mem_singleton] at along
    exact along.elim avoids start.symm

theorem IsWalk.head_source {e : RateEdge W} (walk : g.IsWalk a (e :: hops) b) : e.source = a :=
  walk.2.1

theorem fresh_of_nodup_map {α β : Type} {f : α → β} {a : α} {front behind : List α}
    (distinct : ((front ++ a :: behind).map f).Nodup) : f a ∉ behind.map f := by
  rw [List.map_append, List.map_cons] at distinct
  exact (List.nodup_cons.mp distinct.of_append_right).1

theorem exists_split_of_not_nodup_map {α β : Type} {f : α → β} {l : List α}
    (repeats : ¬(l.map f).Nodup) :
    ∃ front a between b behind, l = front ++ a :: (between ++ b :: behind) ∧ f a = f b := by
  rw [List.Nodup, List.pairwise_map, List.pairwise_iff_forall_sublist] at repeats
  push Not at repeats
  obtain ⟨a, b, sublist, same⟩ := repeats
  obtain ⟨r, s, rfl, first, rest⟩ := List.cons_sublist_iff.mp sublist
  obtain ⟨front, t, rfl⟩ := List.append_of_mem first
  obtain ⟨u, behind, rfl⟩ := List.append_of_mem (List.singleton_sublist.mp rest)
  exact ⟨front, a, t ++ u, b, behind, by simp, same⟩

/-- A loop that goes back by the hop it came by is nothing else. -/
theorem IsLoop.eq_back_and_forth {e e' : RateEdge W} {front between behind : List (RateEdge W)}
    (found : g.IsLoop a (front ++ e :: (between ++ e' :: behind))) (back : e'.source = e.target)
    (forth : e'.target = e.source) : front = [] ∧ between = [] ∧ behind = [] := by
  obtain ⟨_, walk, simple⟩ := found
  obtain ⟨b, walkFront, _, rfl, walk⟩ := isWalk_append.mp walk
  obtain ⟨c, walkBetween, _, rfl, walkBehind⟩ := isWalk_append.mp walk
  -- a hop beside the two would leave a token that one of them leaves
  have later : (e.source :: (between ++ e' :: behind).map RateEdge.source).Nodup := by
    rw [List.map_append, List.map_cons] at simple
    exact simple.of_append_right
  have behind_nil : behind = [] := by
    cases behind with
    | nil => rfl
    | cons next behind =>
      have again := walkBehind.head_source.trans forth
      simp [again] at later
  subst behind_nil
  refine ⟨?front, ?between, rfl⟩
  case front =>
    cases front with
    | nil => rfl
    | cons first front =>
      have again := walkFront.head_source.trans ((Eq.symm walkBehind).trans forth)
      simp [again] at simple
  case between =>
    cases between with
    | nil => rfl
    | cons next between =>
      have again := walkBetween.head_source.trans back.symm
      simp [again] at later

end Walks

section Weights

def distanceAfter [Add W] (start : W) (hops : List (RateEdge W)) : W :=
  hops.foldl (fun distance e => distance + e.weight) start

theorem distanceAfter_concat [Add W] (start : W) (hops : List (RateEdge W)) (e : RateEdge W) :
    distanceAfter start (hops ++ [e]) = distanceAfter start hops + e.weight :=
  List.foldl_concat ..

theorem totalWeight_eq_distanceAfter [Zero W] [Add W] (hops : List (RateEdge W)) :
    totalWeight hops = distanceAfter 0 hops :=
  List.foldl_map

theorem distanceAfter_eq [AddMonoid W] (start : W) (hops : List (RateEdge W)) :
    distanceAfter start hops = start + totalWeight hops := by
  induction hops using List.reverseRecOn with
  | nil => exact (add_zero start).symm
  | append_singleton hops e ih =>
    rw [totalWeight_eq_distanceAfter] at *
    rw [distanceAfter_concat, distanceAfter_concat, ih, add_assoc]

variable [AddMonoid W]

@[simp] theorem totalWeight_nil : totalWeight ([] : List (RateEdge W)) = 0 := rfl

@[simp] theorem totalWeight_append (p q : List (RateEdge W)) :
    totalWeight (p ++ q) = totalWeight p + totalWeight q := by
  rw [totalWeight_eq_distanceAfter, ← distanceAfter_eq, totalWeight_eq_distanceAfter]
  exact List.foldl_append

@[simp] theorem totalWeight_cons (e : RateEdge W) (hops : List (RateEdge W)) :
    totalWeight (e :: hops) = e.weight + totalWeight hops := by
  rw [← distanceAfter_eq, totalWeight_eq_distanceAfter]
  exact congrArg (distanceAfter · hops) (zero_add e.weight)

theorem IsRing.totalWeight_nonneg [Preorder W] [AddLeftMono W] {g : RateGraph W} {base : Address}
    {hops : List (RateEdge W)} (ring : g.IsRing base hops)
    (light : ∀ e ∈ g.edges, e.source ≠ base → e.target ≠ base → 0 ≤ e.weight) :
    0 ≤ totalWeight hops := by
  have each : ∀ e ∈ hops, 0 ≤ e.weight := by
    intro e member
    obtain ⟨token, walk⟩ := ring.closed
    refine light e (walk.mem_edges member) ?_ ?_
    · exact fun source => ring.avoids (List.mem_map.mpr ⟨e, member, source⟩)
    · exact fun target => ring.avoids_targets (List.mem_map.mpr ⟨e, member, target⟩)
  clear ring
  induction hops with
  | nil => exact le_rfl
  | cons e hops ih =>
    rw [totalWeight_cons]
    exact add_nonneg (each e List.mem_cons_self)
      (ih fun e' member => each e' (List.mem_cons_of_mem e member))

end Weights

end SwapLoops.RateGraph
