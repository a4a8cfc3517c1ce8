import SwapLoops.Proofs.Market.Delivery

/-! Convergence of the store. Updates whose positions are distinct for each pair leave
the same content in every order of delivery, in any batches, from any number of feeds
that are drained at the same time, and when some of them are delivered again. -/

namespace SwapLoops

namespace Update

/-- Updates that take nothing over from before, where each position of a pair stands for
one update and all known identities of a pair are the same. -/
structure Consistent (us : List Update) : Prop where
  written : ∀ u ∈ us, u.toPair.earlier = .none
  distinct : ∀ u ∈ us, ∀ v ∈ us, u.address = v.address →
    u.toPair.provenance.position = v.toPair.provenance.position → u = v
  identity : ∀ u ∈ us, ∀ v ∈ us, u.address = v.address →
    u.toPair.knowsTokens = true → v.toPair.knowsTokens = true → u.toPair.tokens = v.toPair.tokens

instance (us : List Update) : Decidable (Consistent us) :=
  decidable_of_iff
    ((∀ u ∈ us, u.toPair.earlier = .none) ∧
      (∀ u ∈ us, ∀ v ∈ us, u.address = v.address →
        u.toPair.provenance.position = v.toPair.provenance.position → u = v) ∧
      ∀ u ∈ us, ∀ v ∈ us, u.address = v.address → u.toPair.knowsTokens = true →
        v.toPair.knowsTokens = true → u.toPair.tokens = v.toPair.tokens)
    ⟨fun ⟨written, distinct, identity⟩ => ⟨written, distinct, identity⟩,
      fun ⟨written, distinct, identity⟩ => ⟨written, distinct, identity⟩⟩

def isObserved : Update → Bool
  | restored _ => false
  | _ => true

theorem written_of_isObserved {u : Update} (observed : u.isObserved = true) :
    u.toPair.earlier = .none := by
  cases u with
  | restored state => cases observed
  | _ => rfl

theorem address_toPair (u : Update) : u.toPair.address = u.address := by
  cases u <;> rfl

theorem Consistent.congr {us vs : List Update} (consistent : Consistent us)
    (same : ∀ u, u ∈ us ↔ u ∈ vs) : Consistent vs where
  written := by simpa only [same] using consistent.written
  distinct := by simpa only [same] using consistent.distinct
  identity := by simpa only [same] using consistent.identity

theorem Consistent.addressed {us : List Update} (consistent : Consistent us) (key : Address) :
    Pair.Consistent (Market.addressed key (us.map toPair)) := by
  have source : ∀ p ∈ Market.addressed key (us.map toPair),
      ∃ u ∈ us, u.toPair = p ∧ u.address = key := by
    intro p member
    obtain ⟨delivered, _, here⟩ := Market.mem_addressed.mp member
    obtain ⟨u, sent, rfl⟩ := List.mem_map.mp delivered
    exact ⟨u, sent, rfl, (address_toPair u).symm.trans here⟩
  refine ⟨?written, ?distinct, ?identity⟩
  case written =>
    intro p member
    obtain ⟨u, sent, rfl, _⟩ := source p member
    exact consistent.written u sent
  case distinct =>
    intro p member q member' same
    obtain ⟨u, sent, rfl, here⟩ := source p member
    obtain ⟨v, sent', rfl, here'⟩ := source q member'
    rw [consistent.distinct u sent v sent' (here.trans here'.symm) same]
  case identity =>
    intro p member q member'
    obtain ⟨u, sent, rfl, here⟩ := source p member
    obtain ⟨v, sent', rfl, here'⟩ := source q member'
    exact consistent.identity u sent v sent' (here.trans here'.symm)

/-! A pair that is read in full, whose next read fails, and that syncs after that. -/

def fullRead : Update := .snapshot 0xaa 0x70 0x71 1000 2000 (some 25) ⟨.endOf 8, 0⟩

def failedRead : Update := .readFailed 0xaa ⟨.endOf 9, 0⟩

def laterSync : Update := .sync 0xaa 500 700 none ⟨⟨10, 0, 2⟩, 0⟩

end Update

namespace Market

open Update (fullRead failedRead laterSync)

/-- Feeds that are drained into one market at the same time: in each step one of them
hands over its next batch. -/
inductive Drains : Market → List (List (List Update)) → Market → Prop
  | done {m : Market} {feeds : List (List (List Update))} (drained : ∀ feed ∈ feeds, feed = []) :
      Drains m feeds m
  | step {m m' : Market} (before : List (List (List Update))) {after : List (List (List Update))}
      {batch : List Update} {feed : List (List Update)}
      (rest : Drains (m.deliverUpdates batch).1 (before ++ feed :: after) m') :
      Drains m (before ++ (batch :: feed) :: after) m'

/-- However the feeds take turns, their updates arrive in some order. -/
theorem Drains.delivers {m m' : Market} {feeds : List (List (List Update))}
    (run : m.Drains feeds m') :
    ∃ us, us.Perm feeds.flatten.flatten ∧ m' = (m.deliverUpdates us).1 := by
  induction run with
  | done drained =>
    refine ⟨[], ?_, rfl⟩
    rw [List.flatten_eq_nil_iff.mpr (by
      intro batch member
      obtain ⟨feed, source, present⟩ := List.mem_flatten.mp member
      rw [drained feed source] at present
      cases present)]
  | @step m m' before after batch feed rest ih =>
    obtain ⟨us, arrived, result⟩ := ih
    refine ⟨batch ++ us, ?_, by rw [result, deliverUpdates_append]⟩
    refine (arrived.append_left batch).trans ?_
    simp only [List.flatten_append, List.flatten_cons, List.append_assoc]
    exact List.perm_append_comm_assoc _ _ _

theorem drains_drain (m : Market) (feeds : List (List (List Update))) :
    m.Drains feeds (m.drain feeds) := by
  have behind : ∀ (feeds drained : List (List (List Update))) (m : Market),
      (∀ feed ∈ drained, feed = []) → m.Drains (drained ++ feeds) (m.drain feeds) := by
    intro feeds
    induction feeds with
    | nil =>
      intro drained m empty
      exact .done (by rwa [List.append_nil])
    | cons feed feeds ih =>
      intro drained m empty
      induction feed generalizing m with
      | nil =>
        have empty' : ∀ feed ∈ drained ++ [[]], feed = [] := by
          intro feed member
          rcases List.mem_append.mp member with member | member
          · exact empty feed member
          · exact List.mem_singleton.mp member
        have turn := ih (drained ++ [[]]) m empty'
        rw [List.append_assoc] at turn
        exact turn
      | cons batch feed turn => exact .step drained (turn (m.deliverUpdates batch).1)
  exact behind feeds [] m (by simp)

theorem gather_updates {us : List Update} {key : Address} (onePair : ∀ u ∈ us, u.address = key)
    (written : ∀ u ∈ us, u.toPair.earlier = .none) :
    Pair.Leaves (us.map Update.toPair) (Pair.gather none (us.map Update.toPair)) := by
  apply @Pair.gather_leaves _ key
  · intro p member
    obtain ⟨u, source, rfl⟩ := List.mem_map.mp member
    exact written u source
  · intro p member
    obtain ⟨u, source, rfl⟩ := List.mem_map.mp member
    rw [Update.address_toPair, onePair u source]

section OnePair

variable {us : List Update} {key : Address} (named : key ≠ 0)

include named

theorem entries_deliverUpdates (ttl : Seconds) (onePair : ∀ u ∈ us, u.address = key) :
    ((new ttl).deliverUpdates us).1.entries[key]? = Pair.gather none (us.map Update.toPair) := by
  have all : addressed key (us.map Update.toPair) = us.map Update.toPair := by
    apply List.filter_eq_self.mpr
    intro p member
    obtain ⟨u, source, rfl⟩ := List.mem_map.mp member
    have here : u.toPair.address = key := (Update.address_toPair u).trans (onePair u source)
    simpa [Pair.isNamed, here] using named
  rw [deliverUpdates, entries_new_deliverPairs, all]

variable {ttl : Seconds} {feeds : List (List (List Update))} {m : Market}
  (run : (new ttl).Drains feeds m) (sent : feeds.flatten.flatten.Perm us)
  (onePair : ∀ u ∈ us, u.address = key)

include run sent onePair

theorem Drains.gathers :
    ∃ vs : List Update, vs.Perm us ∧ m.entries[key]? = Pair.gather none (vs.map Update.toPair) := by
  obtain ⟨vs, arrived, rfl⟩ := run.delivers
  have order : vs.Perm us := arrived.trans sent
  exact ⟨vs, order, entries_deliverUpdates named ttl fun u member => onePair u (order.mem_iff.mp member)⟩

theorem Drains.leaves (written : ∀ u ∈ us, u.toPair.earlier = .none) :
    Pair.Leaves (us.map Update.toPair) m.entries[key]? := by
  obtain ⟨vs, order, gathered⟩ := run.gathers named sent onePair
  rw [gathered]
  have leaves := gather_updates (fun v member => onePair v (order.mem_iff.mp member))
    (fun v member => written v (order.mem_iff.mp member))
  exact leaves.congr fun u => (order.map _).mem_iff

theorem Drains.settled (written : ∀ u ∈ us, u.toPair.earlier = .none) :
    us = [] ∧ m.entries[key]? = none ∨
      ∃ p, m.entries[key]? = some p ∧ Pair.Settled (us.map Update.toPair) p := by
  have leaves := run.leaves named sent onePair written
  cases here : m.entries[key]? with
  | none =>
    rw [here] at leaves
    exact Or.inl ⟨List.map_eq_nil_iff.mp leaves.eq_nil_of_none, rfl⟩
  | some p =>
    rw [here] at leaves
    exact Or.inr ⟨p, rfl, leaves.settled_of_some⟩

end OnePair

/-- The content depends only on which updates were delivered. -/
theorem entries_eq_of_drains {ttl ttl' : Seconds} {feeds feeds' : List (List (List Update))}
    {m m' : Market} (consistent : Update.Consistent feeds.flatten.flatten)
    (same : ∀ u, u ∈ feeds.flatten.flatten ↔ u ∈ feeds'.flatten.flatten)
    (run : (new ttl).Drains feeds m) (run' : (new ttl').Drains feeds' m') :
    m.entries = m'.entries := by
  obtain ⟨us, arrived, rfl⟩ := run.delivers
  obtain ⟨us', arrived', rfl⟩ := run'.delivers
  have consistent' : Update.Consistent us := consistent.congr fun u => arrived.symm.mem_iff
  apply entries_congr ttl ttl' consistent'.addressed
  intro p
  simp only [List.mem_map, arrived.mem_iff, arrived'.mem_iff, same]

/-- One feed against two that take turns, where the sync comes first and again. -/
theorem entries_eq_of_turns :
    Update.Consistent [fullRead, failedRead, laterSync] ∧
      ((new 0).drain [[[fullRead, failedRead], [laterSync]]]).entries =
        ((((new 0).deliverUpdates [laterSync]).1.deliverUpdates [failedRead, laterSync]).1.deliverUpdates
          [fullRead]).1.entries := by
  have consistent : Update.Consistent [fullRead, failedRead, laterSync] := by decide +kernel
  have turns : (new 0).Drains [[[laterSync], [fullRead]], [[failedRead, laterSync]]]
      ((((new 0).deliverUpdates [laterSync]).1.deliverUpdates [failedRead, laterSync]).1.deliverUpdates
        [fullRead]).1 :=
    .step [] (.step [[[fullRead]]] (.step [] (.done (by simp))))
  have drained := drains_drain (new 0) [[[fullRead, failedRead], [laterSync]]]
  have same : ∀ u, u ∈ [fullRead, failedRead, laterSync] ↔
      u ∈ [laterSync, fullRead, failedRead, laterSync] := by
    intro u
    simp only [List.mem_cons, List.not_mem_nil, or_false]
    tauto
  exact ⟨consistent, entries_eq_of_drains (by exact consistent) (by exact same) drained turns⟩

end Market

end SwapLoops
