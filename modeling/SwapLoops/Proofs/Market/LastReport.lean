import SwapLoops.Proofs.Market.Convergence

/-! The reserves of a stored pair. That an update wrote the reserves shows only in their
values, so the report of a drained pool passes for none at all. What is stored is the last
report that shows liquidity. It is the last report if that one shows liquidity, or if none
does; a pool that was drained last keeps its older reserves. -/

namespace SwapLoops

namespace Entry

variable {α : Type}

def latest (written : List (Entry α)) : Entry α := written.foldr later none

theorem isLatest_latest (written : List (Entry α)) : IsLatest (latest written) written := by
  induction written with
  | nil => exact ⟨Or.inl rfl, by simp⟩
  | cons e written ih => exact isLatest_later (isLatest_single e) ih

theorem latest_eq_none {written : List (Entry α)} : latest written = none ↔ ∀ e ∈ written, e = none := by
  obtain ⟨source, above⟩ := isLatest_latest written
  constructor
  · intro absent e member
    have below := above e member
    rw [absent] at below
    exact rank_eq_bot.mp (le_bot_iff.mp below)
  · intro unwritten
    rcases source with absent | member
    · exact absent
    · exact unwritten _ member

end Entry

namespace Update

def report? : Update → Entry (Word × Word)
  | sync _ reserve0 reserve1 _ provenance => some (provenance.position, reserve0, reserve1)
  | snapshot _ _ _ reserve0 reserve1 _ provenance => some (provenance.position, reserve0, reserve1)
  | readFailed .. => none
  | restored state => some (state.provenance.position, state.reserve0, state.reserve1)

def shown (report : Entry (Word × Word)) : Word × Word := report.elim (0, 0) Prod.snd

def liquidReport? (u : Update) : Entry (Word × Word) :=
  if shown u.report? = (0, 0) then none else u.report?

theorem entry_reserves {u : Update} (observed : u.isObserved = true) :
    Part.reserves.entry u.toPair = u.liquidReport? := by
  have unnoted := Part.noted_reserves (written_of_isObserved observed)
  have carried : Part.reserves.carried u.toPair = !decide (shown u.report? = (0, 0)) := by
    cases u with
    | restored state => cases observed
    | _ => simp [Part.reserves, toPair, report?, shown, bne, beq_eq_decide]
  rw [Part.entry_of_unnoted unnoted, carried, liquidReport?]
  by_cases drained : shown u.report? = (0, 0)
  · simp [drained]
  · cases u with
    | readFailed pair provenance => exact absurd rfl drained
    | restored state => cases observed
    | _ => simp only [drained, decide_false, Bool.not_false, ↓reduceIte]; rfl

theorem rank_liquidReport_le (u : Update) : u.liquidReport?.rank ≤ u.report?.rank := by
  unfold liquidReport?
  split_ifs
  · exact bot_le
  · exact le_rfl

theorem liquidReport_eq_none {u : Update} : u.liquidReport? = none ↔ shown u.report? = (0, 0) := by
  unfold liquidReport?
  split_ifs with drained
  · exact iff_of_true rfl drained
  · apply iff_of_false _ drained
    intro absent
    apply drained
    rw [absent]
    rfl

theorem latest_liquidReport_eq_none {us : List Update} :
    Entry.latest (us.map liquidReport?) = none ↔ ∀ u ∈ us, shown u.report? = (0, 0) := by
  simp only [Entry.latest_eq_none, List.forall_mem_map, liquidReport_eq_none]

theorem shown_liquidReport {u : Update} : shown u.liquidReport? = shown u.report? := by
  unfold liquidReport?
  split_ifs with drained
  · exact drained.symm
  · rfl

theorem shown_latest_liquidReport {us : List Update} :
    shown (Entry.latest (us.map liquidReport?)) = (0, 0) ↔ ∀ u ∈ us, shown u.report? = (0, 0) := by
  rw [← latest_liquidReport_eq_none]
  constructor
  · intro drained
    rcases (Entry.isLatest_latest (us.map liquidReport?)).1 with absent | present
    · exact absent
    · obtain ⟨u, _, last⟩ := List.mem_map.mp present
      rw [← last, shown_liquidReport] at drained
      rw [← last, liquidReport_eq_none.mpr drained]
  · intro absent
    rw [absent]
    rfl

section Reports

variable {us : List Update} (observed : ∀ u ∈ us, u.isObserved = true)
  (distinct : ∀ u ∈ us, ∀ v ∈ us,
    u.toPair.provenance.position = v.toPair.provenance.position → u = v)

include observed

theorem map_liquidReport :
    us.map liquidReport? = (us.map toPair).map Part.reserves.entry := by
  rw [List.map_map]
  exact List.map_congr_left fun u member => (entry_reserves (observed u member)).symm

include distinct

theorem eq_latest_liquidReport {e : Entry (Word × Word)}
    (last : e.IsLatest (us.map liquidReport?)) : e = Entry.latest (us.map liquidReport?) := by
  apply Entry.isLatest_unique _ last (Entry.isLatest_latest _)
  rw [map_liquidReport observed]
  apply Part.entries_distinct
  · intro p member
    obtain ⟨u, source, rfl⟩ := List.mem_map.mp member
    exact Part.noted_reserves (written_of_isObserved (observed u source))
  · intro p member q member' same
    obtain ⟨u, source, rfl⟩ := List.mem_map.mp member
    obtain ⟨v, source', rfl⟩ := List.mem_map.mp member'
    rw [distinct u source v source' same]

/-- The last report is the last one of liquidity, if it shows any. -/
theorem latest_liquidReport_of_shown (liquid : shown (Entry.latest (us.map report?)) ≠ (0, 0)) :
    Entry.latest (us.map liquidReport?) = Entry.latest (us.map report?) := by
  obtain ⟨source, above⟩ := Entry.isLatest_latest (us.map report?)
  refine (eq_latest_liquidReport observed distinct ⟨Or.inr ?_, ?_⟩).symm
  · rcases source with absent | present
    · rw [absent] at liquid
      exact absurd rfl liquid
    · obtain ⟨u, member, last⟩ := List.mem_map.mp present
      refine List.mem_map.mpr ⟨u, member, ?_⟩
      rw [liquidReport?, last, if_neg liquid]
  · intro e member
    obtain ⟨u, writer, rfl⟩ := List.mem_map.mp member
    calc u.liquidReport?.rank ≤ u.report?.rank := rank_liquidReport_le u
      _ ≤ (Entry.latest (us.map report?)).rank := above _ (List.mem_map_of_mem writer)

theorem shown_latest_iff :
    shown (Entry.latest (us.map liquidReport?)) = shown (Entry.latest (us.map report?)) ↔
      (shown (Entry.latest (us.map report?)) = (0, 0) → ∀ u ∈ us, shown u.report? = (0, 0)) := by
  by_cases drained : shown (Entry.latest (us.map report?)) = (0, 0)
  · rw [drained, imp_iff_right rfl]
    exact shown_latest_liquidReport
  · rw [latest_liquidReport_of_shown observed distinct drained]
    exact iff_of_true rfl fun drained' => absurd drained' drained

end Reports

def drainedSync : Update := .sync 0xaa 0 0 none ⟨⟨9, 0, 0⟩, 0⟩

end Update

namespace Market

open Update (report? liquidReport? shown fullRead laterSync drainedSync)

/-- The stored reserves are those of the last report of liquidity, and so those of the
last report just if this one shows liquidity or none of them does. -/
theorem reserves_eq_report_iff {ttl : Seconds} {us : List Update} {key : Address} (named : key ≠ 0)
    (onePair : ∀ u ∈ us, u.isObserved = true ∧ u.address = key)
    (distinct : ∀ u ∈ us, ∀ v ∈ us,
      u.toPair.provenance.position = v.toPair.provenance.position → u = v)
    {feeds : List (List (List Update))} (sent : feeds.flatten.flatten.Perm us) {m : Market}
    (run : (new ttl).Drains feeds m) :
    us = [] ∧ m.entries[key]? = none ∨
      ∃ p, m.entries[key]? = some p ∧
        (p.reserve0, p.reserve1) = shown (Entry.latest (us.map liquidReport?)) ∧
        ((p.reserve0, p.reserve1) = shown (Entry.latest (us.map report?)) ↔
          (shown (Entry.latest (us.map report?)) = (0, 0) →
            ∀ u ∈ us, shown u.report? = (0, 0))) := by
  have observed : ∀ u ∈ us, u.isObserved = true := fun u member => (onePair u member).1
  rcases run.settled named sent (fun u member => (onePair u member).2)
    (fun u member => Update.written_of_isObserved (observed u member)) with empty | ⟨p, present, settled⟩
  · exact Or.inl empty
  · refine Or.inr ⟨p, present, ?_⟩
    have latest := settled.reserves.latest
    rw [← Update.map_liquidReport observed] at latest
    have stored : (p.reserve0, p.reserve1) = shown (Entry.latest (us.map liquidReport?)) := by
      rw [← Update.eq_latest_liquidReport observed distinct latest]
      exact @Part.value_eq_entry _ Part.reserves p
    exact ⟨stored, stored ▸ Update.shown_latest_iff observed distinct⟩

/-- A pool that was drained and filled again shows its last report. -/
theorem refilled_pool_shows_report :
    (∀ u ∈ [fullRead, drainedSync, laterSync], u.isObserved = true ∧ u.address = 0xaa) ∧
    (∀ u ∈ [fullRead, drainedSync, laterSync], ∀ v ∈ [fullRead, drainedSync, laterSync],
      u.toPair.provenance.position = v.toPair.provenance.position → u = v) ∧
    ∃ p, ((new 0).drain [[[laterSync]], [[drainedSync, fullRead]]]).entries[(0xaa : Address)]? = some p ∧
      (p.reserve0, p.reserve1) = shown (Entry.latest ([fullRead, drainedSync, laterSync].map report?)) := by
  have onePair : ∀ u ∈ [fullRead, drainedSync, laterSync], u.isObserved = true ∧ u.address = 0xaa := by
    decide
  have distinct : ∀ u ∈ [fullRead, drainedSync, laterSync], ∀ v ∈ [fullRead, drainedSync, laterSync],
      u.toPair.provenance.position = v.toPair.provenance.position → u = v := by decide
  refine ⟨onePair, distinct, ?_⟩
  rcases reserves_eq_report_iff (by decide) onePair distinct (by decide)
    (drains_drain (new 0) [[[laterSync]], [[drainedSync, fullRead]]]) with ⟨empty, _⟩ | ⟨p, present, _, shows⟩
  · cases empty
  · exact ⟨p, present, shows.mpr fun drained => absurd drained (by decide)⟩

/-- A pool that is drained after its last read keeps the reserves that were read. -/
theorem drained_pool_keeps_reserves :
    ((new 0).drain [[[fullRead], [drainedSync]]]).entries[(0xaa : Address)]?.map
        (fun p => (p.reserve0, p.reserve1)) = some (1000, 2000) ∧
      shown (Entry.latest ([fullRead, drainedSync].map report?)) = (0, 0) := by
  rw [drain_eq, deliverUpdates, entries_deliverPairs]
  decide +kernel

end Market

end SwapLoops
