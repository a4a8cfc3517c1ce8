import SwapLoops.Proofs.Market.Convergence

/-! The error flag of a stored pair. A part that is older than its state keeps only the
position where it was written. The time of observation, which decides between two reads of
one block, is lost with the first later update. From then on the read that arrived first
stands, and the flag is that of the last read only if the reads of its block agree. -/

namespace SwapLoops

namespace Pair

variable {α : Type} {part : Part α}

/-- A part survives states that did not write it later, where those that are newer did
not write it at all. -/
theorem gather_keeps {c : Pair} {ps : List Pair} (dated : part.Dated c)
    (behind : ∀ p ∈ ps, part.Dated p ∧ (part.entry p).rank ≤ (part.entry c).rank ∧
      (c.provenance.rank < p.provenance.rank → part.entry p = none)) :
    ∃ p, gather (some c) ps = some p ∧ part.entry p = part.entry c := by
  induction ps generalizing c with
  | nil => exact ⟨c, rfl, rfl⟩
  | cons q ps ih =>
    obtain ⟨dated', below, unwritten⟩ := behind q List.mem_cons_self
    have kept : part.entry (c.join q) = part.entry c := by
      rcases lt_or_ge c.provenance.rank q.provenance.rank with newer | older
      · rw [Part.entry_join_of_rank_lt dated dated' newer, unwritten newer]
        rfl
      · rw [Part.entry_join_of_rank_le dated dated' older, Entry.later_eq_left below]
    obtain ⟨p, gathered, same⟩ := ih (Part.dated_join dated dated') fun p member => by
      obtain ⟨dated'', below', unwritten'⟩ := behind p (List.mem_cons_of_mem _ member)
      rw [kept, rank_join]
      exact ⟨dated'', below', fun newer => unwritten' ((le_max_left _ _).trans_lt newer)⟩
    exact ⟨p, gathered, same.trans kept⟩

theorem entry_join_newest {c q : Pair} (dated : part.Dated c) (dated' : part.Dated q)
    (newest : c.provenance.rank < q.provenance.rank)
    (written : part.since q = some q.provenance.position) :
    part.entry (c.join q) = part.entry q := by
  rw [Part.entry_join_of_rank_lt dated dated' newest, Entry.later_eq_left]
  rw [Part.rank_entry, Part.rank_entry, written]
  cases since : part.since c with
  | none => exact bot_le
  | some earlier =>
    apply WithBot.coe_le_coe.mpr
    calc earlier ≤ c.provenance.position := Part.since_le_position dated since
      _ ≤ q.provenance.position := Provenance.position_le_of_rank_le newest.le

end Pair

namespace Update

def rank (u : Update) : Position ×ₗ ℤ := u.toPair.provenance.rank

def position (u : Update) : Position := u.toPair.provenance.position

def verdict? : Update → Option Bool
  | readFailed .. => some true
  | snapshot .. => some false
  | _ => none

/-- The last of the updates that tell how a read went. -/
structure LastVerdict (us : List Update) (g : Update) : Prop where
  member : g ∈ us
  told : g.verdict?.isSome = true
  last : ∀ u ∈ us, u.verdict?.isSome = true → u.rank ≤ g.rank

theorem position_le_of_rank_le {u v : Update} (ranked : u.rank ≤ v.rank) : u.position ≤ v.position :=
  Provenance.position_le_of_rank_le ranked

theorem exists_lastVerdict (us : List Update) :
    (∃ g, LastVerdict us g) ∨ ∀ u ∈ us, u.verdict? = none := by
  cases greatest : (us.filter fun u => u.verdict?.isSome).argmax rank with
  | none =>
    rw [List.argmax_eq_none, List.filter_eq_nil_iff] at greatest
    exact Or.inr fun u member => by simpa using greatest u member
  | some g =>
    have told := List.argmax_mem greatest
    rw [List.mem_filter] at told
    exact Or.inl ⟨g, told.1, told.2, fun u member tells =>
      List.le_of_mem_argmax (List.mem_filter.mpr ⟨member, tells⟩) greatest⟩

/-- What an observed update tells of the read is written at its position, if a full read
knows the tokens of the pair. -/
theorem entry_status {u : Update} (observed : u.isObserved = true)
    (identified : u.verdict? = some false → u.toPair.knowsTokens = true) :
    Part.status.entry u.toPair = u.verdict?.map fun failed => (u.position, failed) := by
  rw [Part.entry_of_unnoted (Part.noted_status (written_of_isObserved observed))]
  cases u with
  | restored state => cases observed
  | sync pair reserve0 reserve1 fee provenance => rfl
  | readFailed pair provenance => rfl
  | snapshot pair token0 token1 reserve0 reserve1 fee provenance =>
    rw [if_pos (by simp [Part.status, identified rfl])]
    rfl

theorem dated_status {u : Update} (written : u.toPair.earlier = .none) : Part.status.Dated u.toPair :=
  Part.dated_of_unnoted (Part.noted_status written)

theorem verdict_of_entry {p : Pair} {u : Update}
    (same : Part.status.entry p = Part.status.entry u.toPair)
    (told : Part.status.entry u.toPair = u.verdict?.map fun failed => (u.position, failed))
    (tells : u.verdict?.isSome = true) : u.verdict? = some p.failed := by
  obtain ⟨flag, verdict⟩ := Option.isSome_iff_exists.mp tells
  have value : p.failed = flag := by
    have value := @Part.value_eq_entry _ Part.status p
    rw [same, told, verdict] at value
    exact value
  rw [verdict, value]

section Verdicts

variable {us : List Update} {g : Update} (greatest : LastVerdict us g)

include greatest

theorem LastVerdict.claims_iff (distinct : ∀ u ∈ us, ∀ v ∈ us, u.rank = v.rank → u = v) :
    (∃ g', LastVerdict us g' ∧ g'.verdict? = some true) ↔ g.verdict? = some true := by
  constructor
  · rintro ⟨g', other, failed⟩
    have same : g = g' := distinct g greatest.member g' other.member
      (le_antisymm (other.last g greatest.member greatest.told)
        (greatest.last g' other.member other.told))
    rwa [same]
  · exact fun failed => ⟨g, greatest, failed⟩

variable (told : ∀ u ∈ us, Part.status.entry u.toPair = u.verdict?.map fun failed => (u.position, failed))

include told

theorem LastVerdict.rank_entry_le {u : Update} (member : u ∈ us) :
    (Part.status.entry u.toPair).rank ≤ (Part.status.entry g.toPair).rank := by
  obtain ⟨flag, tells⟩ := Option.isSome_iff_exists.mp greatest.told
  rw [told u member, told g greatest.member, tells]
  cases other : u.verdict? with
  | none => exact bot_le
  | some flag' =>
    apply WithBot.coe_le_coe.mpr
    apply position_le_of_rank_le
    exact greatest.last u member (by rw [other]; rfl)

theorem LastVerdict.entry_of_agree {p : Pair} (settled : Pair.Settled (us.map toPair) p)
    (agree : ∀ u ∈ us, u.verdict?.isSome = true → u.position = g.position → u.verdict? = g.verdict?) :
    Part.status.entry p = Part.status.entry g.toPair := by
  obtain ⟨source, above⟩ := settled.status.latest
  obtain ⟨flag, tells⟩ := Option.isSome_iff_exists.mp greatest.told
  have lower := above _ (List.mem_map_of_mem (List.mem_map_of_mem greatest.member))
  have written : Part.status.entry g.toPair = some (g.position, flag) := by
    rw [told g greatest.member, tells]
    rfl
  rcases source with absent | present
  · rw [absent, written] at lower
    exact absurd lower (by simp [Entry.rank])
  · obtain ⟨q, member, here⟩ := List.mem_map.mp present
    obtain ⟨u, member', rfl⟩ := List.mem_map.mp member
    have upper := greatest.rank_entry_le told member'
    rw [← here] at lower ⊢
    rw [written] at lower upper ⊢
    rw [told u member'] at lower upper ⊢
    cases other : u.verdict? with
    | none =>
      rw [other] at lower
      exact absurd lower (by simp [Entry.rank])
    | some flag' =>
      rw [other] at lower upper
      have same : u.position = g.position := WithBot.coe_inj.mp (le_antisymm upper lower)
      have verdict := agree u member' (by rw [other]; rfl) same
      rw [other, tells, Option.some.injEq] at verdict
      rw [verdict, same]
      rfl

variable (written : ∀ u ∈ us, u.toPair.earlier = .none)

include written

section Newest

variable (newest : ∀ u ∈ us, u.rank ≤ g.rank)

include newest

theorem LastVerdict.entry_gather {after : List Update} (among : ∀ u ∈ after, u ∈ us) {c : Pair}
    (dated : Part.status.Dated c) (above : g.rank ≤ c.provenance.rank)
    (same : Part.status.entry c = Part.status.entry g.toPair) {p : Pair}
    (gathered : Pair.gather (some c) (after.map toPair) = some p) :
    Part.status.entry p = Part.status.entry g.toPair := by
  have behind : ∀ q ∈ after.map toPair, Part.status.Dated q ∧
      (Part.status.entry q).rank ≤ (Part.status.entry c).rank ∧
      (c.provenance.rank < q.provenance.rank → Part.status.entry q = none) := by
    intro q member
    obtain ⟨u, source, rfl⟩ := List.mem_map.mp member
    have member' := among u source
    refine ⟨dated_status (written u member'), ?_, fun newer => ?_⟩
    · rw [same]
      exact greatest.rank_entry_le told member'
    · exact absurd ((newest u member').trans above) (not_le.mpr newer)
  obtain ⟨p', gathered', kept⟩ := Pair.gather_keeps dated behind
  rw [gathered, Option.some.injEq] at gathered'
  rw [gathered', kept, same]

theorem LastVerdict.entry_of_newest {key : Address} (onePair : ∀ u ∈ us, u.address = key)
    (distinct : ∀ u ∈ us, ∀ v ∈ us, u.rank = v.rank → u = v) {p : Pair}
    (gathered : Pair.gather none (us.map toPair) = some p) :
    Part.status.entry p = Part.status.entry g.toPair := by
  have dated := dated_status (written g greatest.member)
  -- What arrives before the first copy of `g` is behind it, and nothing passes it later.
  obtain ⟨before, after, split, first⟩ := List.eq_append_cons_of_mem greatest.member
  have earlier : ∀ u ∈ before, u ∈ us := fun u member => by simp [split, member]
  have later : ∀ u ∈ after, u ∈ us := fun u member => by simp [split, member]
  have leaves := Market.gather_updates (fun u member => onePair u (earlier u member))
    (fun u member => written u (earlier u member))
  rw [split, List.map_append, List.map_cons, Pair.gather_append] at gathered
  cases arrived : Pair.gather none (before.map toPair) with
  | none =>
    rw [arrived] at gathered
    exact greatest.entry_gather told written newest later dated le_rfl rfl gathered
  | some c =>
    rw [arrived] at gathered leaves
    have settled := leaves.settled_of_some
    obtain ⟨v, member, top, _⟩ := settled.top
    obtain ⟨u, source, rfl⟩ := List.mem_map.mp member
    have behind : c.provenance.rank < g.rank := by
      rw [← top]
      apply lt_of_le_of_ne (newest u (earlier u source))
      intro same
      apply first
      rwa [← distinct u (earlier u source) g greatest.member same]
    obtain ⟨flag, tells⟩ := Option.isSome_iff_exists.mp greatest.told
    have since : Part.status.since g.toPair = some g.toPair.provenance.position := by
      rw [Part.since_eq_entry, told g greatest.member, tells]
      rfl
    have above : g.rank ≤ (c.join g.toPair).provenance.rank := by
      rw [Pair.rank_join]
      exact le_max_right _ _
    exact greatest.entry_gather told written newest later (Part.dated_join settled.status.dated dated)
      above (Pair.entry_join_newest settled.status.dated dated behind since) gathered

end Newest

/-- A read that is the first to come after a later update stands against all reads of
its block. -/
theorem LastVerdict.entry_of_overtaken {later early : Update} {rest : List Update}
    (order : us.Perm (later :: early :: rest)) (overtaken : g.rank < later.rank) (tells : early.verdict?.isSome = true)
    (same : early.position = g.position) :
    ∃ p, Pair.gather none ((later :: early :: rest).map toPair) = some p ∧
      Part.status.entry p = Part.status.entry early.toPair := by
  have dated : ∀ u ∈ us, Part.status.Dated u.toPair := fun u member => dated_status (written u member)
  have untold : ∀ u ∈ us, g.rank < u.rank → Part.status.entry u.toPair = none := by
    intro u member beyond
    rw [told u member, Option.map_eq_none_iff]
    by_contra tells
    exact absurd (greatest.last u member (Option.isSome_iff_ne_none.mpr tells)) (not_le.mpr beyond)
  have member : later ∈ us := order.mem_iff.mpr List.mem_cons_self
  have member' : early ∈ us := order.mem_iff.mpr (by simp)
  have behind : early.rank < later.rank :=
    calc early.rank ≤ g.rank := greatest.last early member' tells
      _ < later.rank := overtaken
  have joined : Part.status.entry (later.toPair.join early.toPair) = Part.status.entry early.toPair := by
    rw [Part.entry_join_of_rank_le (dated later member) (dated early member') behind.le,
      untold later member overtaken]
    rfl
  have level : (Part.status.entry g.toPair).rank = (Part.status.entry early.toPair).rank := by
    obtain ⟨flag, verdict⟩ := Option.isSome_iff_exists.mp greatest.told
    obtain ⟨flag', verdict'⟩ := Option.isSome_iff_exists.mp tells
    rw [told g greatest.member, told early member', verdict, verdict']
    exact congrArg (fun position : Position => (position : WithBot Position)) same.symm
  obtain ⟨p, gathered, kept⟩ := @Pair.gather_keeps _ Part.status (later.toPair.join early.toPair)
    (rest.map toPair) (Part.dated_join (dated later member) (dated early member')) (by
      intro q source
      obtain ⟨u, source', rfl⟩ := List.mem_map.mp source
      have present : u ∈ us := order.mem_iff.mpr (by simp [source'])
      rw [joined, ← level, Pair.rank_join]
      exact ⟨dated u present, greatest.rank_entry_le told present, fun beyond =>
        untold u present (overtaken.trans ((le_max_left _ _).trans_lt beyond))⟩)
  exact ⟨p, gathered, kept.trans joined⟩

/-- In some order of arrival the flag is not that of the last read, if an update is later
and a read of its block went otherwise. -/
theorem LastVerdict.exists_order_against {later early : Update} (member : later ∈ us) (overtaken : g.rank < later.rank)
    (member' : early ∈ us) (tells : early.verdict?.isSome = true) (same : early.position = g.position)
    (differs : early.verdict? ≠ g.verdict?) :
    ∃ vs p, us.Perm vs ∧ Pair.gather none (vs.map toPair) = some p ∧ g.verdict? ≠ some p.failed := by
  have distinct : early ≠ later := by
    rintro rfl
    exact absurd (greatest.last early member' tells) (not_le.mpr overtaken)
  have order : us.Perm (later :: early :: (us.erase later).erase early) :=
    (List.perm_cons_erase member).trans
      ((List.perm_cons_erase ((List.mem_erase_of_ne distinct).mpr member')).cons later)
  obtain ⟨p, gathered, kept⟩ := greatest.entry_of_overtaken told written order overtaken tells same
  refine ⟨_, p, order, gathered, fun verdict => differs ?_⟩
  rw [verdict, verdict_of_entry kept (told early member') tells]

/-- If nothing is later than the last read, or all reads of its block went as it did, the
flag is that of the last read in any order of arrival. -/
theorem LastVerdict.verdict_eq {key : Address} (onePair : ∀ u ∈ us, u.address = key)
    (distinct : ∀ u ∈ us, ∀ v ∈ us, u.rank = v.rank → u = v)
    (condition : (∀ u ∈ us, u.rank ≤ g.rank) ∨
      ∀ u ∈ us, u.verdict?.isSome = true → u.position = g.position → u.verdict? = g.verdict?)
    {vs : List Update} (order : us.Perm vs) {p : Pair} (settled : Pair.Settled (us.map toPair) p)
    (gathered : Pair.gather none (vs.map toPair) = some p) : g.verdict? = some p.failed := by
  apply verdict_of_entry _ (told g greatest.member) greatest.told
  rcases condition with newest | agree
  · have greatest' : LastVerdict vs g := by
      refine ⟨order.mem_iff.mp greatest.member, greatest.told, ?_⟩
      simpa only [order.mem_iff] using greatest.last
    simp only [order.mem_iff] at told onePair written distinct newest
    exact greatest'.entry_of_newest told written newest onePair distinct gathered
  · exact greatest.entry_of_agree told settled agree

end Verdicts

theorem not_failed_of_untold {us : List Update} (untold : ∀ u ∈ us, u.verdict? = none)
    (told : ∀ u ∈ us, Part.status.entry u.toPair = u.verdict?.map fun failed => (u.position, failed))
    {p : Pair} (settled : Pair.Settled (us.map toPair) p) : p.failed = false := by
  have unwritten : Part.status.entry p = none := by
    rcases settled.status.latest.1 with absent | member
    · exact absent
    · obtain ⟨q, source, here⟩ := List.mem_map.mp member
      obtain ⟨u, source', rfl⟩ := List.mem_map.mp source
      rw [← here, told u source', untold u source']
      rfl
  have value := @Part.value_eq_entry _ Part.status p
  rw [unwritten] at value
  exact value

def failedAttempt : Update := .readFailed 0xaa ⟨.endOf 10, 1⟩

def retriedRead : Update := .snapshot 0xaa 0x70 0x71 900 900 (some 25) ⟨.endOf 10, 2⟩

def syncBeyond : Update := .sync 0xaa 400 800 none ⟨⟨12, 0, 0⟩, 0⟩

end Update

namespace Market

open Update (LastVerdict failedAttempt retriedRead syncBeyond)

/-- In each order of arrival the flag is that of the last read, just if no update is later
than this read or all reads of its block went like it. -/
theorem failed_iff_lastVerdict_iff {ttl : Seconds} {us : List Update} {key : Address}
    (named : key ≠ 0)
    (onePair : ∀ u ∈ us, u.isObserved = true ∧ u.address = key ∧
      (u.verdict? = some false → u.toPair.knowsTokens = true))
    (distinct : ∀ u ∈ us, ∀ v ∈ us, u.rank = v.rank → u = v) :
    (∀ (feeds : List (List (List Update))) (m : Market), feeds.flatten.flatten.Perm us →
      (new ttl).Drains feeds m →
      us = [] ∧ m.entries[key]? = none ∨
        ∃ p, m.entries[key]? = some p ∧
          (p.failed = true ↔ ∃ g, LastVerdict us g ∧ g.verdict? = some true)) ↔
    ∀ g, LastVerdict us g →
      (∀ u ∈ us, u.rank ≤ g.rank) ∨
        ∀ u ∈ us, u.verdict?.isSome = true → u.position = g.position → u.verdict? = g.verdict? := by
  have address : ∀ u ∈ us, u.address = key := fun u member => (onePair u member).2.1
  have written : ∀ u ∈ us, u.toPair.earlier = .none := fun u member =>
    Update.written_of_isObserved (onePair u member).1
  have told : ∀ u ∈ us, Part.status.entry u.toPair =
      u.verdict?.map fun failed => (u.position, failed) := fun u member =>
    Update.entry_status (onePair u member).1 (onePair u member).2.2
  constructor
  case mp =>
    intro correct g greatest
    by_contra wrong
    push Not at wrong
    obtain ⟨⟨later, member, overtaken⟩, early, member', tells, same, differs⟩ := wrong
    obtain ⟨vs, p, order, gathered, against⟩ :=
      greatest.exists_order_against told written member overtaken member' tells same differs
    have stored : ((new ttl).deliverUpdates vs).1.entries[key]? = some p :=
      (entries_deliverUpdates named ttl fun u source => address u (order.mem_iff.mpr source)).trans
        gathered
    rcases correct [[vs]] ((new ttl).deliverUpdates vs).1 (by simpa using order.symm)
      (drains_drain (new ttl) _) with ⟨empty, _⟩ | ⟨p', present, flag⟩
    · rw [empty] at member
      cases member
    · rw [stored, Option.some.injEq] at present
      subst present
      obtain ⟨failed, verdict⟩ := Option.isSome_iff_exists.mp greatest.told
      rw [greatest.claims_iff distinct, verdict, Option.some.injEq] at flag
      exact against (verdict.trans (congrArg some (Bool.eq_iff_iff.mpr flag).symm))
  case mpr =>
    intro condition feeds m sent run
    obtain ⟨vs, order, gathered⟩ := run.gathers named sent address
    rcases run.settled named sent address written with empty | ⟨p, present, settled⟩
    · exact Or.inl empty
    refine Or.inr ⟨p, present, ?_⟩
    rw [gathered] at present
    rcases Update.exists_lastVerdict us with ⟨g, greatest⟩ | untold
    · rw [greatest.claims_iff distinct, greatest.verdict_eq told written address distinct
        (condition g greatest) order.symm settled present, Option.some.injEq]
    · rw [Update.not_failed_of_untold untold told settled]
      apply iff_of_false Bool.false_ne_true
      rintro ⟨g, greatest, failed⟩
      rw [untold g greatest.member] at failed
      cases failed

/-- The two reads of a block alone leave the flag of the second one. -/
theorem retried_read_clears_failure :
    (∀ u ∈ [failedAttempt, retriedRead], u.isObserved = true ∧ u.address = 0xaa ∧
      (u.verdict? = some false → u.toPair.knowsTokens = true)) ∧
    (∀ u ∈ [failedAttempt, retriedRead], ∀ v ∈ [failedAttempt, retriedRead], u.rank = v.rank → u = v) ∧
    ∀ (feeds : List (List (List Update))) (m : Market),
      feeds.flatten.flatten.Perm [failedAttempt, retriedRead] → (new 0).Drains feeds m →
      ∃ p, m.entries[(0xaa : Address)]? = some p ∧
        (p.failed = true ↔ ∃ g, LastVerdict [failedAttempt, retriedRead] g ∧ g.verdict? = some true) := by
  have onePair : ∀ u ∈ [failedAttempt, retriedRead], u.isObserved = true ∧ u.address = 0xaa ∧
      (u.verdict? = some false → u.toPair.knowsTokens = true) := by decide
  have distinct : ∀ u ∈ [failedAttempt, retriedRead], ∀ v ∈ [failedAttempt, retriedRead],
      u.rank = v.rank → u = v := by decide
  have tells : ∀ u ∈ [failedAttempt, retriedRead], u.verdict?.isSome = true := by decide
  have correct := (@failed_iff_lastVerdict_iff 0 _ _ (by decide) onePair distinct).mpr
    fun g greatest => Or.inl fun u member => greatest.last u member (tells u member)
  refine ⟨onePair, distinct, fun feeds m sent run => ?_⟩
  rcases correct feeds m sent run with ⟨empty, _⟩ | flag
  · cases empty
  · exact flag

/-- A sync of a later block that arrives before them lets the failure stand. -/
theorem retried_read_stays_failed :
    ((new 0).drain [[[syncBeyond], [failedAttempt], [retriedRead]]]).entries[(0xaa : Address)]?.map
        Pair.failed = some true ∧
      LastVerdict [syncBeyond, failedAttempt, retriedRead] retriedRead ∧
      retriedRead.verdict? = some false := by
  refine ⟨?_, ⟨by decide, rfl, by decide⟩, rfl⟩
  rw [drain_eq, deliverUpdates, entries_deliverPairs]
  decide +kernel

end Market

end SwapLoops
