import SwapLoops.Proofs.Market.Entries

/-! Which deliveries alter a market. A market has come as far as its entries have, key by key.
A delivery that alters the content takes it further, and one that brings nothing further leaves
it as it is, so the content never comes back to what it was unless an entry is evicted. -/

namespace SwapLoops.Market

def reach (m : Market) (key : Address) : WithBot Pair.Reach :=
  m.entries[key]?.map Pair.reach

def Dated (m : Market) : Prop := ∀ (key : Address) (p : Pair), m.entries[key]? = some p → p.Dated

variable {m : Market} {key : Address} {p : Pair} {ps : List Pair} {us vs : List Update}

theorem reach_of_some (present : m.entries[key]? = some p) : m.reach key = p.reach := by
  rw [reach, present]
  rfl

theorem reach_of_none (absent : m.entries[key]? = none) : m.reach key = ⊥ := by
  rw [reach, absent]
  rfl

section OneDelivery

variable (dated : m.Dated) (datedState : p.Dated)

include dated datedState

theorem dated_deliver : (m.deliver key p).1.Dated := by
  intro key' q present
  rw [entries_deliver] at present
  split_ifs at present
  · cases before : m.entries[key']? with
    | none =>
      rw [before] at present
      cases present
      exact datedState
    | some c =>
      rw [before] at present
      cases present
      exact (dated key' c before).join datedState
  · exact dated key' q present

theorem reach_deliver (key' : Address) : (m.deliver key p).1.reach key' =
    if p.isNamed && key == key' then m.reach key' ⊔ p.reach else m.reach key' := by
  rw [reach, entries_deliver]
  split_ifs
  · cases before : m.entries[key']? with
    | none =>
      rw [reach_of_none before, bot_sup_eq]
      rfl
    | some c =>
      rw [reach_of_some before, ← WithBot.coe_sup, ← Pair.reach_join (dated key' c before) datedState]
      rfl
  · rfl

theorem reach_le_deliver : m.reach ≤ (m.deliver key p).1.reach := by
  intro key'
  rw [reach_deliver dated datedState]
  split_ifs
  · exact le_sup_left
  · exact le_rfl

theorem state_reach_le_deliver (named : p.isNamed = true) :
    (p.reach : WithBot Pair.Reach) ≤ (m.deliver key p).1.reach key := by
  rw [reach_deliver dated datedState, if_pos (by simp [named])]
  exact le_sup_right

/-- A state that has not come further than the entry it meets alters nothing. -/
theorem deliver_of_reach_le (reached : p.isNamed = true → (p.reach : WithBot Pair.Reach) ≤ m.reach key) :
    m.deliver key p = (m, false) := by
  unfold deliver
  split_ifs with named
  · have below := reached named
    cases present : m.entries[key]? with
    | none =>
      rw [reach_of_none present] at below
      exact absurd below (WithBot.not_coe_le_bot _)
    | some c =>
      rw [reach_of_some present] at below
      have behind : p.reach ≤ c.reach := WithBot.coe_le_coe.mp below
      have same : c.join p = c := (Pair.join_eq_left_iff (dated key c present) datedState).mpr behind
      have late : ¬p.provenance.Succeeds c.provenance :=
        not_lt.mpr (Provenance.position_le_of_rank_le behind.1)
      simp only [replacement?, if_neg late, Pair.absorb?, same, if_pos]
  · rfl

end OneDelivery

theorem ne_of_replacement {current : Option Pair} {p' : Pair}
    (replaced : replacement? current p = some p') : current ≠ some p' := by
  cases current with
  | none => exact (Option.some_ne_none p').symm
  | some c =>
    simp only [replacement?] at replaced
    split_ifs at replaced with succeeds
    · -- The new entry has the later position of the state that came in.
      have newer := Provenance.rank_lt_of_position_lt succeeds
      intro same
      have joined : p.join c = c := (Option.some.inj replaced).trans (Option.some.inj same).symm
      have newest := Pair.rank_join p c
      rw [joined, max_eq_left newer.le] at newest
      exact newer.ne newest
    · simp only [Pair.absorb?] at replaced
      split_ifs at replaced with unchanged
      intro same
      exact unchanged ((Option.some.inj replaced).trans (Option.some.inj same).symm)

theorem snd_deliver_iff (m : Market) (key : Address) (p : Pair) :
    (m.deliver key p).2 = true ↔ (m.deliver key p).1.entries ≠ m.entries := by
  unfold deliver
  split_ifs
  · cases replaced : replacement? m.entries[key]? p with
    | none => simp
    | some p' =>
      refine iff_of_true rfl fun same => ne_of_replacement replaced ?_
      have present : (m.put key p').entries[key]? = some p' := Std.ExtTreeMap.getElem?_insert_self
      rw [← same, present]
  · simp

theorem deliver_of_unchanged (unchanged : (m.deliver key p).2 = false) : (m.deliver key p).1 = m := by
  unfold deliver at unchanged ⊢
  split_ifs at unchanged ⊢
  · cases replaced : replacement? m.entries[key]? p with
    | none => rfl
    | some p' =>
      rw [replaced] at unchanged
      cases unchanged
  · rfl

/-- A batch reports the number of its states that alter the content when their turn comes. -/
theorem snd_deliverPairs (m : Market) (ps : List Pair) : (m.deliverPairs ps).2 =
    Nat.count (fun i => (m.deliverPairs (ps.take (i + 1))).1.entries ≠
      (m.deliverPairs (ps.take i)).1.entries) ps.length := by
  induction ps generalizing m with
  | nil => rfl
  | cons p ps ih =>
    have first : (m.deliverPairs (p :: ps)).2 = ((m.deliver p.address p).1.deliverPairs ps).2 +
        if (m.deliver p.address p).2 then 1 else 0 := congrArg Prod.snd (deliverAll_cons m _ _)
    rw [first, ih, List.length_cons, Nat.count_succ']
    simp only [List.take_succ_cons, List.take_zero, deliverPairs_cons, snd_deliver_iff]
    rfl

theorem deliverPairs_of_unchanged (unchanged : (m.deliverPairs ps).2 = 0) :
    (m.deliverPairs ps).1 = m := by
  induction ps generalizing m with
  | nil => rfl
  | cons p ps ih =>
    have first : m.deliverPairs (p :: ps) = _ := deliverAll_cons m (p.address, p) _
    rw [first] at unchanged ⊢
    obtain ⟨rest, none⟩ := Nat.add_eq_zero_iff.mp unchanged
    have same : (m.deliver p.address p).1 = m := deliver_of_unchanged (by simpa using none)
    exact (ih rest).trans same

section Batch

variable (dated : m.Dated) (datedStates : ∀ p ∈ ps, p.Dated)

include dated datedStates

theorem dated_deliverPairs : (m.deliverPairs ps).1.Dated := by
  induction ps generalizing m with
  | nil => exact dated
  | cons p ps ih =>
    obtain ⟨datedState, others⟩ := List.forall_mem_cons.mp datedStates
    rw [deliverPairs_cons]
    exact ih (dated_deliver dated datedState) others

theorem reach_le_deliverPairs : m.reach ≤ (m.deliverPairs ps).1.reach := by
  induction ps generalizing m with
  | nil => exact le_rfl
  | cons p ps ih =>
    obtain ⟨datedState, others⟩ := List.forall_mem_cons.mp datedStates
    rw [deliverPairs_cons]
    calc m.reach
      _ ≤ (m.deliver p.address p).1.reach := reach_le_deliver dated datedState
      _ ≤ ((m.deliver p.address p).1.deliverPairs ps).1.reach :=
        ih (dated_deliver dated datedState) others

theorem state_reach_le_deliverPairs (member : p ∈ ps) (named : p.isNamed = true) :
    (p.reach : WithBot Pair.Reach) ≤ (m.deliverPairs ps).1.reach p.address := by
  induction ps generalizing m with
  | nil => cases member
  | cons q ps ih =>
    obtain ⟨datedState, others⟩ := List.forall_mem_cons.mp datedStates
    have dated' : (m.deliver q.address q).1.Dated := dated_deliver dated datedState
    rw [deliverPairs_cons]
    rcases List.mem_cons.mp member with rfl | member
    · exact (state_reach_le_deliver dated datedState named).trans
        (reach_le_deliverPairs dated' others p.address)
    · exact ih dated' others member

theorem deliverPairs_of_reach_le
    (reached : ∀ p ∈ ps, p.isNamed = true → (p.reach : WithBot Pair.Reach) ≤ m.reach p.address) :
    m.deliverPairs ps = (m, 0) := by
  induction ps with
  | nil => rfl
  | cons p ps ih =>
    obtain ⟨datedState, others⟩ := List.forall_mem_cons.mp datedStates
    obtain ⟨behind, behindAll⟩ := List.forall_mem_cons.mp reached
    have first : m.deliverPairs (p :: ps) = _ := deliverAll_cons m (p.address, p) _
    have same : m.deliver p.address p = (m, false) := deliver_of_reach_le dated datedState behind
    have rest : m.deliverAll (ps.map fun p => (p.address, p)) = (m, 0) := ih others behindAll
    rw [first, same, rest]
    rfl

end Batch

theorem dated_states (written : ∀ u ∈ us, u.toPair.earlier = .none) :
    ∀ p ∈ us.map Update.toPair, p.Dated := by
  intro p member
  obtain ⟨u, source, rfl⟩ := List.mem_map.mp member
  exact Pair.dated_of_written (written u source)

theorem dated_afterAll {events : List Event} (dated : m.Dated)
    (written : ∀ u ∈ events.flatMap Event.updates, u.toPair.earlier = .none) :
    (m.afterAll events).Dated := by
  induction events generalizing m with
  | nil => exact dated
  | cons e events ih =>
    rw [List.flatMap_cons, List.forall_mem_append] at written
    refine ih ?_ written.2
    cases e with
    | batch us => exact dated_deliverPairs dated (dated_states written.1)
    | evict keys now =>
      intro key p present
      rcases entries_evict_cases m keys now key with same | ⟨_, _, _, gone⟩
      · exact dated key p (same.symm.trans present)
      · exact absurd (gone.symm.trans present) (Option.some_ne_none p).symm

theorem dated_new (ttl : Seconds) : (new ttl).Dated := by
  intro key p present
  have empty : (new ttl).entries[key]? = none := Std.ExtTreeMap.getElem?_empty
  rw [empty] at present
  cases present

/-- A batch reports how many of its updates alter the content. It reports none just if the
content is the same after it, and the content before a batch that reports some never comes
back, whatever is delivered after it. A batch that is delivered again reports none. -/
theorem batches_report_progress {ttl : Seconds} {events : List Event} {feeds : List (List (List Update))}
    (reached : (new ttl).afterAll events = m)
    (earlier : ∀ u ∈ events.flatMap Event.updates, u.toPair.earlier = .none)
    (written : ∀ u ∈ us, u.toPair.earlier = .none)
    (later : ∀ u ∈ feeds.flatten.flatten, u.toPair.earlier = .none) :
    (m.deliverUpdates us).2 = Nat.count (fun i => (m.deliverUpdates (us.take (i + 1))).1.entries ≠
      (m.deliverUpdates (us.take i)).1.entries) us.length ∧
    ((m.deliverUpdates us).2 = 0 ↔ (m.deliverUpdates us).1.entries = m.entries) ∧
    ((m.deliverUpdates us).2 ≠ 0 →
      ((m.deliverUpdates us).1.drain feeds).entries ≠ m.entries) ∧
    ((m.deliverUpdates us).1.deliverUpdates us).2 = 0 := by
  have dated : m.Dated := reached ▸ dated_afterAll (dated_new ttl) earlier
  have states := dated_states written
  have dated' : (m.deliverUpdates us).1.Dated := dated_deliverPairs dated states
  have further := fun p member => @state_reach_le_deliverPairs _ p _ dated states member
  -- A later content that is the same again leaves no room for the batch to have altered any.
  have unaltered : ∀ m' : Market, (m.deliverUpdates us).1.reach ≤ m'.reach →
      m'.entries = m.entries → (m.deliverUpdates us).2 = 0 := by
    intro m' onward same
    have back : m'.reach = m.reach := by
      funext key
      rw [reach, same, reach]
    have none : m.deliverPairs (us.map Update.toPair) = (m, 0) :=
      deliverPairs_of_reach_le dated states fun p member named =>
        (further p member named).trans (back ▸ onward p.address)
    exact congrArg Prod.snd none
  refine ⟨?count, ⟨?same, unaltered _ le_rfl⟩, ?progress, ?again⟩
  case count =>
    rw [deliverUpdates, snd_deliverPairs, List.length_map]
    simp only [← List.map_take, deliverUpdates]
    congr!
  case same =>
    intro none
    have unchanged : (m.deliverUpdates us).1 = m := deliverPairs_of_unchanged none
    rw [unchanged]
  case progress =>
    intro some back
    refine some (unaltered _ ?_ back)
    rw [drain_eq]
    exact reach_le_deliverPairs dated' (dated_states later)
  case again =>
    exact congrArg Prod.snd (deliverPairs_of_reach_le dated' states further)

open Update (fullRead failedRead laterSync)

/-- Two reads that come after a later sync are counted once each, and what they alter stays. -/
theorem late_reads_are_counted :
    (∀ u ∈ [Event.batch [laterSync]].flatMap Event.updates, u.toPair.earlier = .none) ∧
      (∀ u ∈ [fullRead, failedRead, fullRead], u.toPair.earlier = .none) ∧
      (((new 10).afterAll [.batch [laterSync]]).deliverUpdates [fullRead, failedRead, fullRead]).2 = 2 ∧
      ((((new 10).afterAll [.batch [laterSync]]).deliverUpdates
        [fullRead, failedRead, fullRead]).1.drain [[[laterSync], [failedRead]]]).entries ≠
          ((new 10).afterAll [.batch [laterSync]]).entries := by
  have earlier : ∀ u ∈ [Event.batch [laterSync]].flatMap Event.updates, u.toPair.earlier = .none := by
    decide
  have written : ∀ u ∈ [fullRead, failedRead, fullRead], u.toPair.earlier = .none := by decide
  have counted : (((new 10).afterAll [.batch [laterSync]]).deliverUpdates
      [fullRead, failedRead, fullRead]).2 = 2 := by decide +kernel
  obtain ⟨_, _, progress, _⟩ := @batches_report_progress _ _ _ _ [[[laterSync], [failedRead]]] rfl
    earlier written (by decide)
  exact ⟨earlier, written, counted, progress (by rw [counted]; decide)⟩

end SwapLoops.Market
