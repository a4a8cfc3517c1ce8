import SwapLoops.Proofs.Market.Convergence
import SwapLoops.Proofs.Market.Eviction
import SwapLoops.Proofs.Pair.Reach

/-! The entry under one key, from its first delivery until it is evicted. It is as new as the
newest state delivered for it, each of its parts is that of one such state, and no part ever
goes back to an earlier write or gets lost. -/

namespace SwapLoops

namespace Part.Settled

variable {α : Type} {part : Part α} {us vs : List Pair} {p q : Pair}

theorem exists_value (settled : part.Settled us p) (inhabited : us ≠ []) :
    ∃ u ∈ us, part.value u = part.value p := by
  obtain ⟨source, above⟩ := settled.latest
  rcases source with absent | member
  · obtain ⟨u, member⟩ := List.exists_mem_of_ne_nil us inhabited
    have below := above _ (List.mem_map_of_mem member)
    rw [absent] at below
    have unwritten : part.entry u = none := Entry.rank_eq_bot.mp (le_bot_iff.mp below)
    exact ⟨u, member, by rw [value_eq_entry, value_eq_entry p, unwritten, absent]⟩
  · obtain ⟨u, member, same⟩ := List.mem_map.mp member
    exact ⟨u, member, by rw [value_eq_entry, value_eq_entry p, same]⟩

theorem exists_later (settled : part.Settled us p) (other : part.Settled vs q)
    (among : ∀ u ∈ us, u ∈ vs) :
    ∀ writtenAt ∈ part.since p, ∃ later ∈ part.since q, writtenAt ≤ later := by
  intro writtenAt written
  have below : (part.entry p).rank ≤ (part.entry q).rank := by
    rcases settled.latest.1 with absent | member
    · rw [absent]
      exact bot_le
    · obtain ⟨u, member, same⟩ := List.mem_map.mp member
      rw [← same]
      exact other.latest.2 _ (List.mem_map_of_mem (among u member))
  rw [rank_entry, rank_entry, Option.mem_def.mp written] at below
  cases since : part.since q with
  | none =>
    rw [since] at below
    exact absurd below (WithBot.not_coe_le_bot writtenAt)
  | some later =>
    rw [since] at below
    exact ⟨later, rfl, WithBot.coe_le_coe.mp below⟩

theorem since_ne_none (settled : part.Settled us p) (other : part.Settled vs q)
    (among : ∀ u ∈ us, u ∈ vs) (carried : part.carried p = true) : part.since q ≠ none := by
  cases written : part.since p with
  | none =>
    rw [carried_of_since_eq_none written] at carried
    cases carried
  | some writtenAt =>
    obtain ⟨later, present, _⟩ := settled.exists_later other among writtenAt written
    rw [Option.mem_def.mp present]
    exact Option.some_ne_none later

end Part.Settled

namespace Pair

variable {us vs : List Pair} {p q : Pair}

/-- Each part of a state is that of one of the given states, and it is as new as the newest
of them. -/
structure Sums (us : List Pair) (p : Pair) : Prop where
  newest : IsGreatest {rank | ∃ u ∈ us, u.provenance.rank = rank} p.provenance.rank
  dated : p.Dated
  reserves : ∃ u ∈ us, (u.reserve0, u.reserve1) = (p.reserve0, p.reserve1)
  fee : ∃ u ∈ us, u.fee = p.fee
  tokens : ∃ u ∈ us, (u.token0, u.token1) = (p.token0, p.token1)

/-- No part is from an earlier write than in the other state, and nothing is unknown that is
known there. -/
structure Outgrows (q p : Pair) : Prop where
  reserves : ∀ writtenAt ∈ p.reservesSince, ∃ later ∈ q.reservesSince, writtenAt ≤ later
  fee : ∀ writtenAt ∈ p.feeSince, ∃ later ∈ q.feeSince, writtenAt ≤ later
  status : ∀ writtenAt ∈ p.statusSince, ∃ later ∈ q.statusSince, writtenAt ≤ later
  liquidity : (p.reserve0, p.reserve1) ≠ (0, 0) → (q.reserve0, q.reserve1) ≠ (0, 0)
  knownFee : p.fee ≠ none → q.fee ≠ none
  identity : p.knowsTokens = true → q.knowsTokens = true

theorem carried_reserves_iff (p : Pair) :
    Part.reserves.carried p = true ↔ (p.reserve0, p.reserve1) ≠ (0, 0) := by
  simp only [Part.reserves, Bool.or_eq_true, bne_iff_ne, ne_eq, Prod.mk.injEq, not_and_or]

theorem carried_fee_iff (p : Pair) : Part.fee.carried p = true ↔ p.fee ≠ none :=
  Option.isSome_iff_ne_none

namespace Settled

theorem sums (settled : Settled us p) : Sums us p := by
  obtain ⟨u, member, top, unknown⟩ := settled.top
  have inhabited : us ≠ [] := List.ne_nil_of_mem member
  refine ⟨⟨⟨u, member, by rw [top]⟩, ?newest⟩, ?dated,
    settled.reserves.exists_value inhabited, settled.fee.exists_value inhabited, ?tokens⟩
  case newest =>
    rintro _ ⟨v, member', rfl⟩
    exact settled.newest v member'
  case dated => exact ⟨settled.reserves.dated, settled.fee.dated, settled.status.dated⟩
  case tokens =>
    cases known : p.knowsTokens with
    | false => exact ⟨u, member, unknown known⟩
    | true => exact settled.identity known

theorem outgrows (settled : Settled us p) (other : Settled vs q) (among : ∀ u ∈ us, u ∈ vs)
    (written : ∀ v ∈ vs, v.earlier = .none) : q.Outgrows p where
  reserves := settled.reserves.exists_later other.reserves among
  fee := settled.fee.exists_later other.fee among
  status := settled.status.exists_later other.status among
  liquidity liquid := by
    rw [← carried_reserves_iff] at liquid ⊢
    exact other.carried_reserves written (settled.reserves.since_ne_none other.reserves among liquid)
  knownFee known := by
    rw [← carried_fee_iff] at known ⊢
    exact other.carried_fee written (settled.fee.since_ne_none other.fee among known)
  identity known := by
    obtain ⟨u, member, same⟩ := settled.identity known
    exact other.known u (among u member) ((knowsTokens_congr same).trans known)

end Settled

theorem Leaves.gather {current : Option Pair} {ps : List Pair} {key : Address}
    (leaves : Leaves us current) (before : ∀ u ∈ us, u.address = key)
    (written : ∀ p ∈ ps, p.earlier = .none) (same : ∀ p ∈ ps, p.address = key) :
    Leaves (us ++ ps) (gather current ps) := by
  cases leaves with
  | nothing => exact gather_leaves written same
  | state settled =>
    obtain ⟨u, member, _⟩ := settled.top
    have here := (settled.address u member).symm.trans (before u member)
    obtain ⟨p, gathered, joined⟩ :=
      gather_settled settled written fun p member => (same p member).trans here.symm
    rw [gathered]
    exact .state joined

end Pair

namespace Market

inductive Event
  | batch (updates : List Update)
  | evict (keys : List Address) (now : Seconds)

def Event.updates : Event → List Update
  | .batch us => us
  | .evict .. => []

def after (m : Market) : Event → Market
  | .batch us => (m.deliverUpdates us).1
  | .evict keys now => m.evict keys now

def afterAll (m : Market) (events : List Event) : Market := events.foldl after m

def delivered (key : Address) (events : List Event) : List Pair :=
  addressed key ((events.flatMap Event.updates).map Update.toPair)

def Event.Evicts (key : Address) (m : Market) (e : Event) : Prop :=
  m.entries[key]? ≠ none ∧ (m.after e).entries[key]? = none

def Spares (key : Address) : Market → List Event → Prop
  | _, [] => True
  | m, e :: events => ¬e.Evicts key m ∧ Spares key (m.after e) events

variable {m : Market} {key : Address} {events later : List Event}

theorem spares_append :
    Spares key m (events ++ later) ↔ Spares key m events ∧ Spares key (m.afterAll events) later := by
  induction events generalizing m with
  | nil => simp [Spares, afterAll]
  | cons e events ih =>
    rw [List.cons_append, Spares, Spares, ih, and_assoc]
    rfl

theorem delivered_append (key : Address) (events later : List Event) :
    delivered key (events ++ later) = delivered key events ++ delivered key later := by
  rw [delivered, List.flatMap_append, List.map_append, addressed_append]
  rfl

theorem entries_evict_of_spared {keys : List Address} {now : Seconds}
    (spared : ¬(Event.evict keys now).Evicts key m) :
    (m.evict keys now).entries[key]? = m.entries[key]? := by
  rcases entries_evict_cases m keys now key with same | ⟨p, present, _, gone⟩
  · exact same
  · exact absurd ⟨by simp [present], gone⟩ spared

theorem not_evicts_of_notMem {keys : List Address} {now : Seconds} (unasked : key ∉ keys) :
    ¬(Event.evict keys now).Evicts key m := by
  rintro ⟨present, gone⟩
  rw [after, entries_evict, if_neg unasked] at gone
  exact present gone

theorem not_evicts_batch (us : List Update) : ¬(Event.batch us).Evicts key m := by
  rintro ⟨present, gone⟩
  exact present ((entries_deliverAll_eq_none_iff _ _ _).mp gone).1

/-- One event adds to the entry what it delivers for it. -/
theorem leaves_after {us : List Pair} {e : Event} (leaves : Pair.Leaves us m.entries[key]?)
    (before : ∀ u ∈ us, u.address = key) (written : ∀ u ∈ e.updates, u.toPair.earlier = .none)
    (spared : ¬e.Evicts key m) :
    Pair.Leaves (us ++ delivered key [e]) (m.after e).entries[key]? := by
  cases e with
  | batch updates =>
    have sent : delivered key [.batch updates] = addressed key (updates.map Update.toPair) := by
      simp only [delivered, Event.updates, List.flatMap_cons, List.flatMap_nil, List.append_nil]
    rw [sent, after, deliverUpdates, entries_deliverPairs]
    apply leaves.gather before
    · intro p member
      obtain ⟨u, source, rfl⟩ := List.mem_map.mp (mem_addressed.mp member).1
      exact written u source
    · exact fun p member => (mem_addressed.mp member).2.2
  | evict keys now =>
    have nothing : delivered key [.evict keys now] = [] := rfl
    rw [nothing, List.append_nil, after, entries_evict_of_spared spared]
    exact leaves

theorem address_of_mem_delivered {p : Pair} (member : p ∈ delivered key events) : p.address = key :=
  (mem_addressed.mp member).2.2

theorem leaves_afterAll {us : List Pair} (leaves : Pair.Leaves us m.entries[key]?)
    (before : ∀ u ∈ us, u.address = key)
    (written : ∀ u ∈ events.flatMap Event.updates, u.toPair.earlier = .none)
    (spared : Spares key m events) :
    Pair.Leaves (us ++ delivered key events) (m.afterAll events).entries[key]? := by
  induction events generalizing m us with
  | nil =>
    rw [show delivered key [] = [] from rfl, List.append_nil]
    exact leaves
  | cons e events ih =>
    rw [List.flatMap_cons, List.forall_mem_append] at written
    have step := leaves_after leaves before written.1 spared.1
    have here : ∀ u ∈ us ++ delivered key [e], u.address = key :=
      List.forall_mem_append.mpr ⟨before, fun u => address_of_mem_delivered⟩
    have rest := ih step here written.2 spared.2
    rwa [List.append_assoc, ← delivered_append] at rest

theorem written_of_mem_delivered {p : Pair}
    (written : ∀ u ∈ events.flatMap Event.updates, u.toPair.earlier = .none)
    (member : p ∈ delivered key events) : p.earlier = .none := by
  obtain ⟨u, source, rfl⟩ := List.mem_map.mp (mem_addressed.mp member).1
  exact written u source

/-- As long as it is not evicted, an entry sums up what was delivered for it, and each of its
states outgrows those before it. -/
theorem entry_sums_deliveries (absent : m.entries[key]? = none)
    (written : ∀ u ∈ (events ++ later).flatMap Event.updates, u.toPair.earlier = .none)
    (spared : Spares key m (events ++ later)) :
    delivered key events = [] ∧ (m.afterAll events).entries[key]? = none ∨
      ∃ p q, (m.afterAll events).entries[key]? = some p ∧
        (m.afterAll (events ++ later)).entries[key]? = some q ∧
        p.Sums (delivered key events) ∧ q.Outgrows p := by
  have empty : Pair.Leaves [] m.entries[key]? := absent ▸ .nothing
  have writtenFirst : ∀ u ∈ events.flatMap Event.updates, u.toPair.earlier = .none := by
    rw [List.flatMap_append, List.forall_mem_append] at written
    exact written.1
  have first := leaves_afterAll empty (by simp) writtenFirst (spares_append.mp spared).1
  have last := leaves_afterAll empty (by simp) written spared
  rw [List.nil_append] at first last
  cases early : (m.afterAll events).entries[key]? with
  | none => exact Or.inl ⟨(early ▸ first).eq_nil_of_none, rfl⟩
  | some p =>
    have settled := (early ▸ first).settled_of_some
    have among : ∀ u ∈ delivered key events, u ∈ delivered key (events ++ later) :=
      fun u member => delivered_append key events later ▸ List.mem_append_left _ member
    cases late : (m.afterAll (events ++ later)).entries[key]? with
    | none =>
      obtain ⟨u, member, _⟩ := settled.top
      have nothing := (late ▸ last).eq_nil_of_none
      exact absurd (among u member) (by simp [nothing])
    | some q =>
      have settled' := (late ▸ last).settled_of_some
      exact Or.inr ⟨p, q, rfl, rfl, settled.sums,
        settled.outgrows settled' among fun v => written_of_mem_delivered written⟩

open Update (fullRead failedRead laterSync)

def eventful : List Event :=
  [.batch [laterSync, .readFailed 0xbb ⟨.endOf 1, 0⟩], .evict [0xbb] 100, .batch [failedRead]]

/-- The failed read adds its flag to the sync that is newer, and the full read keeps it. -/
theorem late_reads_outgrow_sync :
    (new 10).entries[(0xaa : Address)]? = none ∧ Spares 0xaa (new 10) (eventful ++ [.batch [fullRead]]) ∧
      ∃ p q, ((new 10).afterAll eventful).entries[(0xaa : Address)]? = some p ∧
        ((new 10).afterAll (eventful ++ [.batch [fullRead]])).entries[(0xaa : Address)]? = some q ∧
        p.Sums [laterSync.toPair, failedRead.toPair] ∧ q.Outgrows p := by
  have absent : (new 10).entries[(0xaa : Address)]? = none := Std.ExtTreeMap.getElem?_empty
  have spared : Spares 0xaa (new 10) (eventful ++ [.batch [fullRead]]) :=
    ⟨not_evicts_batch _, not_evicts_of_notMem (by decide), not_evicts_batch _, not_evicts_batch _,
      trivial⟩
  have sent : delivered 0xaa eventful = [laterSync.toPair, failedRead.toPair] := by decide
  refine ⟨absent, spared, ?_⟩
  rcases entry_sums_deliveries absent (by decide) spared with ⟨nothing, _⟩ | summed
  · rw [sent] at nothing
    cases nothing
  · rwa [sent] at summed

end Market

end SwapLoops
