import SwapLoops.Market
import SwapLoops.Proofs.Pair.Settled

/-! A market as independent pairs: what deliveries leave under a key is the join of
the states that were delivered for it, whichever of the store's branches each took. -/

namespace SwapLoops

namespace Pair

def receive (current : Option Pair) (p : Pair) : Pair :=
  match current with
  | none => p
  | some c => c.join p

def gather (current : Option Pair) (ps : List Pair) : Option Pair :=
  ps.foldl (fun current p => some (receive current p)) current

theorem gather_append (current : Option Pair) (ps qs : List Pair) :
    gather current (ps ++ qs) = gather (gather current ps) qs :=
  List.foldl_append

theorem join_comm_of_rank_lt {p q : Pair} (ranked : p.provenance.rank < q.provenance.rank) :
    q.join p = p.join q := by
  rcases join_cases p q with ⟨joined, _⟩ | ⟨_, opposite⟩
  · rcases join_cases q p with ⟨_, opposite⟩ | ⟨joined', _⟩
    · exact absurd ranked opposite.asymm
    · rw [joined, joined']
  · exact absurd ranked (not_lt.mpr opposite)

theorem gather_settled {us ps : List Pair} {c : Pair} (settled : Settled us c)
    (written : ∀ p ∈ ps, p.earlier = .none) (same : ∀ p ∈ ps, p.address = c.address) :
    ∃ p, gather (some c) ps = some p ∧ Settled (us ++ ps) p := by
  induction ps generalizing us c with
  | nil => exact ⟨c, rfl, by rwa [List.append_nil]⟩
  | cons q ps ih =>
    have address : c.address = q.address := (same q List.mem_cons_self).symm
    have joined : Settled (us ++ [q]) (c.join q) :=
      settled.join (.single (written q List.mem_cons_self)) address
    have kept : (c.join q).address = c.address := (joined.address q (by simp)).symm.trans address.symm
    obtain ⟨p, gathered, settled'⟩ := ih joined
      (fun p member => written p (List.mem_cons_of_mem _ member))
      (fun p member => (same p (List.mem_cons_of_mem _ member)).trans kept.symm)
    exact ⟨p, gathered, by simpa only [List.append_assoc, List.singleton_append] using settled'⟩

theorem gather_leaves {ps : List Pair} {key : Address} (written : ∀ p ∈ ps, p.earlier = .none)
    (same : ∀ p ∈ ps, p.address = key) : Leaves ps (gather none ps) := by
  cases ps with
  | nil => exact .nothing
  | cons q ps =>
    obtain ⟨p, gathered, settled⟩ := gather_settled (.single (written q List.mem_cons_self))
      (fun p member => written p (List.mem_cons_of_mem _ member))
      (fun p member => (same p (List.mem_cons_of_mem _ member)).trans (same q List.mem_cons_self).symm)
    have whole : gather none (q :: ps) = some p := gathered
    rw [whole]
    exact .state settled

end Pair

namespace Market

theorem states_eq (m : Market) : m.states = m.entries.toList.map Prod.snd := by
  obtain ⟨⟨⟨entries⟩⟩, ttl⟩ := m
  induction entries using Quotient.ind with
  | _ entries =>
    change entries.inner.values = (Std.DTreeMap.Internal.Impl.Const.toList entries.inner).map Prod.snd
    rw [Std.DTreeMap.Internal.Impl.values_eq_map_snd,
      Std.DTreeMap.Internal.Impl.Const.toList_eq_toListModel_map]
    simp

theorem mem_states {m : Market} {p : Pair} : p ∈ m.states ↔ ∃ key : Address, m.entries[key]? = some p := by
  rw [states_eq, List.mem_map]
  constructor
  · rintro ⟨⟨key, p⟩, member, rfl⟩
    exact ⟨key, Std.ExtTreeMap.mem_toList_iff_getElem?_eq_some.mp member⟩
  · rintro ⟨key, present⟩
    exact ⟨(key, p), Std.ExtTreeMap.mem_toList_iff_getElem?_eq_some.mpr present, rfl⟩

def addressed (key : Address) (ps : List Pair) : List Pair :=
  ps.filter fun p => p.isNamed && p.address == key

theorem mem_addressed {key : Address} {ps : List Pair} {p : Pair} :
    p ∈ addressed key ps ↔ p ∈ ps ∧ p.address ≠ 0 ∧ p.address = key := by
  simp [addressed, Pair.isNamed]

theorem addressed_append (key : Address) (ps qs : List Pair) :
    addressed key (ps ++ qs) = addressed key ps ++ addressed key qs :=
  List.filter_append ..

theorem replacement_eq (current : Option Pair) (p : Pair) :
    replacement? current p = some (Pair.receive current p) ∨
      replacement? current p = none ∧ current = some (Pair.receive current p) := by
  cases current with
  | none => exact Or.inl rfl
  | some c =>
    simp only [replacement?, Pair.receive]
    split_ifs with succeeds
    · exact Or.inl (congrArg some
        (Pair.join_comm_of_rank_lt (Provenance.rank_lt_of_position_lt succeeds)))
    · unfold Pair.absorb?
      by_cases unchanged : c.join p = c
      · exact Or.inr ⟨if_pos unchanged, congrArg some unchanged.symm⟩
      · exact Or.inl (if_neg unchanged)

theorem entries_deliver (m : Market) (key key' : Address) (p : Pair) :
    (m.deliver key p).1.entries[key']? =
      if p.isNamed && key == key' then some (Pair.receive m.entries[key']? p)
      else m.entries[key']? := by
  unfold deliver
  by_cases named : p.isNamed
  · rw [if_pos named]
    rcases replacement_eq m.entries[key]? p with replaced | ⟨kept, same⟩
    · by_cases here : key = key'
      · subst here
        simp [replaced, named, put]
      · simp [replaced, here, put, Std.ExtTreeMap.getElem?_insert]
    · by_cases here : key = key'
      · subst here
        simp [kept, named, ← same]
      · simp [kept, here]
  · simp [named]

theorem deliverAll_cons (m : Market) (item : Address × Pair) (items : List (Address × Pair)) :
    m.deliverAll (item :: items) =
      (((m.deliver item.1 item.2).1.deliverAll items).1,
        ((m.deliver item.1 item.2).1.deliverAll items).2 +
          if (m.deliver item.1 item.2).2 then 1 else 0) := by
  have counted : ∀ (items : List (Address × Pair)) (m : Market) (n : Nat),
      items.foldl (fun (state : Market × Nat) item =>
        ((state.1.deliver item.1 item.2).1,
          state.2 + if (state.1.deliver item.1 item.2).2 then 1 else 0)) (m, n) =
        ((m.deliverAll items).1, (m.deliverAll items).2 + n) := by
    intro items
    induction items with
    | nil => exact fun m n => by simp [deliverAll]
    | cons item items ih =>
      intro m n
      have whole : m.deliverAll (item :: items) = _ :=
        ih (m.deliver item.1 item.2).1 (0 + if (m.deliver item.1 item.2).2 then 1 else 0)
      rw [List.foldl_cons, ih, whole]
      simp only [Prod.mk.injEq, true_and]
      omega
  have whole : m.deliverAll (item :: items) =
      (((m.deliver item.1 item.2).1.deliverAll items).1,
        ((m.deliver item.1 item.2).1.deliverAll items).2 +
          (0 + if (m.deliver item.1 item.2).2 then 1 else 0)) := counted items _ _
  rw [whole, Nat.zero_add]

theorem deliverAll_fst (m : Market) (items : List (Address × Pair)) :
    (m.deliverAll items).1 = items.foldl (fun m item => (m.deliver item.1 item.2).1) m := by
  induction items generalizing m with
  | nil => rfl
  | cons item items ih => rw [deliverAll_cons, ih, List.foldl_cons]

theorem ttl_deliver (m : Market) (key : Address) (p : Pair) : (m.deliver key p).1.ttl = m.ttl := by
  unfold deliver
  split_ifs
  · split <;> rfl
  · rfl

theorem ttl_deliverAll (m : Market) (items : List (Address × Pair)) :
    (m.deliverAll items).1.ttl = m.ttl := by
  rw [deliverAll_fst]
  induction items generalizing m with
  | nil => rfl
  | cons item items ih => exact (ih _).trans (ttl_deliver ..)

theorem entries_deliverAll_eq_none_iff (m : Market) (items : List (Address × Pair)) (key : Address) :
    (m.deliverAll items).1.entries[key]? = none ↔
      m.entries[key]? = none ∧ ∀ p, (key, p) ∈ items → p.isNamed = false := by
  rw [deliverAll_fst]
  induction items generalizing m with
  | nil => simp
  | cons item items ih =>
    obtain ⟨key', p⟩ := item
    rw [List.foldl_cons, ih, entries_deliver]
    by_cases here : p.isNamed && key' == key
    · have kept := Bool.and_eq_true_iff.mp here
      rw [if_pos here]
      refine iff_of_false (fun absent => Option.some_ne_none _ absent.1) fun absent => ?_
      have same : key' = key := by simpa using kept.2
      exact Bool.false_ne_true ((absent.2 p (same ▸ List.mem_cons_self)).symm.trans kept.1)
    · rw [if_neg here]
      refine and_congr_right fun _ => ⟨fun others q member => ?_, fun others q member => ?_⟩
      · rcases List.mem_cons.mp member with same | member
        · cases same
          simpa using here
        · exact others q member
      · exact others q (List.mem_cons_of_mem _ member)

theorem deliverPairs_cons (m : Market) (p : Pair) (ps : List Pair) :
    (m.deliverPairs (p :: ps)).1 = ((m.deliver p.address p).1.deliverPairs ps).1 := by
  simp only [deliverPairs, deliverAll_fst, List.map_cons, List.foldl_cons]

theorem deliverPairs_append (m : Market) (ps qs : List Pair) :
    (m.deliverPairs (ps ++ qs)).1 = ((m.deliverPairs ps).1.deliverPairs qs).1 := by
  simp only [deliverPairs, deliverAll_fst, List.map_append, List.foldl_append]

theorem deliverUpdates_append (m : Market) (us vs : List Update) :
    (m.deliverUpdates (us ++ vs)).1 = ((m.deliverUpdates us).1.deliverUpdates vs).1 := by
  simp only [deliverUpdates, List.map_append, deliverPairs_append]

/-- Under each key the states that are kept there are joined in order of arrival. -/
theorem entries_deliverPairs (m : Market) (ps : List Pair) (key : Address) :
    (m.deliverPairs ps).1.entries[key]? = Pair.gather m.entries[key]? (addressed key ps) := by
  induction ps generalizing m with
  | nil => rfl
  | cons p ps ih =>
    rw [deliverPairs_cons, ih, entries_deliver]
    unfold addressed
    rw [List.filter_cons]
    split_ifs <;> rfl

theorem entries_new_deliverPairs (ttl : Seconds) (ps : List Pair) (key : Address) :
    ((new ttl).deliverPairs ps).1.entries[key]? = Pair.gather none (addressed key ps) := by
  have empty : (new ttl).entries[key]? = none := Std.ExtTreeMap.getElem?_empty
  rw [entries_deliverPairs, empty]

theorem entries_leaves (ttl : Seconds) {ps : List Pair} {key : Address}
    (written : ∀ p ∈ addressed key ps, p.earlier = .none) :
    Pair.Leaves (addressed key ps) ((new ttl).deliverPairs ps).1.entries[key]? := by
  rw [entries_new_deliverPairs]
  apply Pair.gather_leaves written
  exact fun p member => (mem_addressed.mp member).2.2

/-- Consistent states of each pair leave the same content in any order and number. -/
theorem entries_congr (ttl ttl' : Seconds) {ps ps' : List Pair}
    (consistent : ∀ key, Pair.Consistent (addressed key ps)) (same : ∀ p, p ∈ ps ↔ p ∈ ps') :
    ((new ttl).deliverPairs ps).1.entries = ((new ttl').deliverPairs ps').1.entries := by
  apply Std.ExtTreeMap.ext_getElem?
  intro key
  have same' : ∀ p, p ∈ addressed key ps ↔ p ∈ addressed key ps' := by
    simp only [mem_addressed, same, implies_true]
  have written' : ∀ p ∈ addressed key ps', p.earlier = .none :=
    fun p member => (consistent key).written p ((same' p).mpr member)
  have leaves' := (entries_leaves ttl' written').congr fun p => (same' p).symm
  exact (entries_leaves ttl (consistent key).written).unique leaves' (consistent key)

theorem drain_eq (m : Market) (feeds : List (List (List Update))) :
    m.drain feeds = (m.deliverUpdates feeds.flatten.flatten).1 := by
  unfold drain
  induction feeds.flatten generalizing m with
  | nil => rfl
  | cons batch batches ih =>
    rw [List.foldl_cons, ih, List.flatten_cons, deliverUpdates_append]

end Market

end SwapLoops
