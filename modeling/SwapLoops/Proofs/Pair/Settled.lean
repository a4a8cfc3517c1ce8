import SwapLoops.Proofs.Pair.LastWriter

/-! The three parts of a state, and the state that a collection of written states
comes to. Such a state is unique when no two of them were written at one position,
so joins may happen in any order and as often as one likes. -/

namespace SwapLoops

namespace Pair

theorem laterPart_fst (newer older : Pair) (since : Pair → Option Position) :
    (newer.laterPart older since).1 = newer ∨ (newer.laterPart older since).1 = older := by
  unfold laterPart
  split
  · split_ifs
    · exact Or.inr rfl
    · exact Or.inl rfl
  · exact Or.inr rfl
  · exact Or.inl rfl

def tokens (p : Pair) : Address × Address := (p.token0, p.token1)

theorem knowsTokens_congr {p q : Pair} (same : p.tokens = q.tokens) :
    p.knowsTokens = q.knowsTokens := by
  simp only [tokens, Prod.mk.injEq] at same
  simp only [knowsTokens, same]

theorem tokens_joinOrdered (newer older : Pair) :
    (joinOrdered newer older).tokens =
      (identitySource (newer.laterPart older statusSince).1 newer older).tokens := rfl

theorem identitySource_cases {status newer older : Pair} (side : status = newer ∨ status = older) :
    (identitySource status newer older).knowsTokens = true ∧
        (identitySource status newer older = newer ∨ identitySource status newer older = older) ∨
      identitySource status newer older = newer ∧ newer.knowsTokens = false ∧
        older.knowsTokens = false := by
  unfold identitySource
  split_ifs with first second third
  · exact Or.inl ⟨first, side⟩
  · exact Or.inl ⟨second, Or.inl rfl⟩
  · exact Or.inl ⟨third, Or.inr rfl⟩
  · exact Or.inr ⟨rfl, by simpa using second, by simpa using third⟩

theorem identitySource_eq {status newer older p : Pair} (side : status = newer ∨ status = older)
    (known : p.knowsTokens = true)
    (only : newer = p ∧ older.knowsTokens = false ∨ older = p ∧ newer.knowsTokens = false) :
    identitySource status newer older = p := by
  rcases only with ⟨rfl, unknown⟩ | ⟨rfl, unknown⟩
  · rcases side with rfl | rfl <;> simp [identitySource, known, unknown]
  · rcases side with rfl | rfl <;> simp [identitySource, known, unknown]

theorem tokens_join_of_unknown {p q : Pair} (known : p.knowsTokens = true)
    (unknown : q.knowsTokens = false) : (p.join q).tokens = p.tokens := by
  rcases join_cases p q with ⟨joined, _⟩ | ⟨joined, _⟩
  · rw [joined, tokens_joinOrdered,
      identitySource_eq (laterPart_fst q p statusSince) known (Or.inr ⟨rfl, unknown⟩)]
  · rw [joined, tokens_joinOrdered,
      identitySource_eq (laterPart_fst p q statusSince) known (Or.inl ⟨rfl, unknown⟩)]

/-- States as updates propose them: nothing is taken over from before, each position
stands for one state, and all known identities are the same. -/
structure Consistent (us : List Pair) : Prop where
  written : ∀ u ∈ us, u.earlier = .none
  distinct : ∀ u ∈ us, ∀ v ∈ us, u.provenance.position = v.provenance.position → u = v
  identity : ∀ u ∈ us, ∀ v ∈ us, u.knowsTokens = true → v.knowsTokens = true →
    u.tokens = v.tokens

theorem Consistent.mono {us vs : List Pair} (consistent : Consistent vs) (among : ∀ u ∈ us, u ∈ vs) :
    Consistent us where
  written u member := consistent.written u (among u member)
  distinct u member v member' := consistent.distinct u (among u member) v (among v member')
  identity u member v member' := consistent.identity u (among u member) v (among v member')

end Pair

namespace Part

def reserves : Part (Word × Word) where
  value p := (p.reserve0, p.reserve1)
  blank := (0, 0)
  noted p := p.earlier.reserves
  carried p := p.reserve0 != 0 || p.reserve1 != 0
  since := Pair.reservesSince
  since_eq _ := rfl
  value_eq_blank p absent := by simpa using absent
  value_joinOrdered _ _ := rfl
  noted_joinOrdered _ _ := rfl
  carried_joinOrdered _ _ carried := carried
  absent_joinOrdered newer older absent absent' := by
    rcases newer.laterPart_fst older Pair.reservesSince with side | side
    · simpa only [Pair.joinOrdered, side] using absent
    · simpa only [Pair.joinOrdered, side] using absent'

def fee : Part (Option UInt32) where
  value := Pair.fee
  blank := none
  noted p := p.earlier.fee
  carried p := p.fee.isSome
  since := Pair.feeSince
  since_eq p := by cases fee : p.fee <;> simp [Pair.feeSince, fee]
  value_eq_blank p absent := by simpa using absent
  value_joinOrdered _ _ := rfl
  noted_joinOrdered _ _ := rfl
  carried_joinOrdered _ _ carried := carried
  absent_joinOrdered newer older absent absent' := by
    rcases newer.laterPart_fst older Pair.feeSince with side | side
    · simpa only [Pair.joinOrdered, side] using absent
    · simpa only [Pair.joinOrdered, side] using absent'

def status : Part Bool where
  value := Pair.failed
  blank := false
  noted p := p.earlier.status
  carried p := p.failed || p.knowsTokens
  since := Pair.statusSince
  since_eq _ := rfl
  value_eq_blank p absent := by
    simp only [Bool.or_eq_false_iff] at absent
    exact absent.1
  value_joinOrdered _ _ := rfl
  noted_joinOrdered _ _ := rfl
  carried_joinOrdered newer older carried := by
    rw [Bool.or_eq_true] at carried ⊢
    apply carried.imp id
    intro known
    rw [← known]
    apply Pair.knowsTokens_congr
    rw [Pair.tokens_joinOrdered, Pair.identitySource, if_pos known]
  absent_joinOrdered newer older absent absent' := by
    rw [Bool.or_eq_false_iff] at absent absent' ⊢
    have side := newer.laterPart_fst older Pair.statusSince
    constructor
    · rcases side with side | side
      · simpa only [Pair.joinOrdered, side] using absent.1
      · simpa only [Pair.joinOrdered, side] using absent'.1
    · rw [Pair.knowsTokens_congr (Pair.tokens_joinOrdered newer older)]
      rcases Pair.identitySource_cases side with ⟨_, same | same⟩ | ⟨same, _⟩
      · rw [same, absent.2]
      · rw [same, absent'.2]
      · rw [same, absent.2]

theorem noted_reserves {p : Pair} (written : p.earlier = .none) : reserves.noted p = none :=
  congrArg Earlier.reserves written

theorem noted_fee {p : Pair} (written : p.earlier = .none) : fee.noted p = none :=
  congrArg Earlier.fee written

theorem noted_status {p : Pair} (written : p.earlier = .none) : status.noted p = none :=
  congrArg Earlier.status written

theorem entries_distinct {α : Type} {part : Part α} {us : List Pair}
    (unnoted : ∀ u ∈ us, part.noted u = none)
    (distinct : ∀ u ∈ us, ∀ v ∈ us, u.provenance.position = v.provenance.position → u = v) :
    ∀ w ∈ us.map part.entry, ∀ w' ∈ us.map part.entry, w.rank = w'.rank → w = w' := by
  intro w member w' member' same
  obtain ⟨u, writer, rfl⟩ := List.mem_map.mp member
  obtain ⟨v, writer', rfl⟩ := List.mem_map.mp member'
  rw [entry_of_unnoted (unnoted u writer), entry_of_unnoted (unnoted v writer')] at same ⊢
  by_cases first : part.carried u
  · by_cases second : part.carried v
    · simp only [first, second, ↓reduceIte, Entry.rank, WithBot.coe_inj] at same
      rw [distinct u writer v writer' same]
    · simp [first, second, Entry.rank] at same
  · by_cases second : part.carried v
    · simp [first, second, Entry.rank] at same
    · simp [first, second]

structure Settled {α : Type} (part : Part α) (us : List Pair) (p : Pair) : Prop where
  dated : part.Dated p
  latest : (part.entry p).IsLatest (us.map part.entry)

namespace Settled

variable {α : Type} {part : Part α} {us vs : List Pair} {p q : Pair}

theorem single (unnoted : part.noted p = none) : part.Settled [p] p :=
  ⟨dated_of_unnoted unnoted, Entry.isLatest_single _⟩

theorem joinOrdered (newer : part.Settled us p) (older : part.Settled vs q)
    (below : q.provenance.position ≤ p.provenance.position) :
    part.Settled (us ++ vs) (Pair.joinOrdered p q) := by
  refine ⟨dated_joinOrdered newer.dated older.dated below, ?_⟩
  rw [entry_joinOrdered newer.dated older.dated below, List.map_append]
  exact Entry.isLatest_later newer.latest older.latest

theorem congr (settled : part.Settled us p) (same : ∀ u, u ∈ us ↔ u ∈ vs) : part.Settled vs p := by
  refine ⟨settled.dated, (Entry.isLatest_congr fun w => ?_).mp settled.latest⟩
  simp only [List.mem_map, same]

theorem entry_eq (settled : part.Settled us p) (other : part.Settled us q)
    (consistent : Pair.Consistent us) (unnoted : ∀ u ∈ us, part.noted u = none) :
    part.entry p = part.entry q :=
  Entry.isLatest_unique (entries_distinct unnoted consistent.distinct) settled.latest other.latest

theorem parts_eq (settled : part.Settled us p) (other : part.Settled us q)
    (consistent : Pair.Consistent us) (provenance : p.provenance = q.provenance)
    (unnoted : ∀ u ∈ us, part.noted u = none) :
    part.value p = part.value q ∧ part.noted p = part.noted q :=
  parts_eq_of_entry_eq settled.dated other.dated provenance
    (settled.entry_eq other consistent unnoted)

section Source

variable (settled : part.Settled us p) (unnoted : ∀ u ∈ us, part.noted u = none)

include settled unnoted

theorem source {writtenAt : Position} (since : part.since p = some writtenAt) :
    ∃ u ∈ us, part.carried u = true ∧ part.value u = part.value p ∧
      u.provenance.position = writtenAt := by
  rw [since_eq_entry, Option.map_eq_some_iff] at since
  obtain ⟨⟨position, value⟩, present, rfl⟩ := since
  rcases settled.latest.1 with absent | member
  · rw [absent] at present
    cases present
  · obtain ⟨u, writer, written⟩ := List.mem_map.mp member
    have held := @value_eq_entry _ part p
    rw [present] at held written
    rw [entry_of_unnoted (unnoted u writer)] at written
    split_ifs at written with carried
    simp only [Option.some.injEq, Prod.mk.injEq] at written
    exact ⟨u, writer, carried, written.2.trans held.symm, written.1⟩

end Source

end Settled

end Part

namespace Pair

theorem ext_parts {p q : Pair} (address : p.address = q.address) (tokens : p.tokens = q.tokens)
    (provenance : p.provenance = q.provenance)
    (reserves : Part.reserves.value p = Part.reserves.value q ∧
      Part.reserves.noted p = Part.reserves.noted q)
    (fee : Part.fee.value p = Part.fee.value q ∧ Part.fee.noted p = Part.fee.noted q)
    (status : Part.status.value p = Part.status.value q ∧
      Part.status.noted p = Part.status.noted q) : p = q := by
  obtain ⟨⟨⟩, _, _, _, _, _, _, _, _, ⟨_, _, _⟩⟩ := p
  obtain ⟨⟨⟩, _, _, _, _, _, _, _, _, ⟨_, _, _⟩⟩ := q
  simp_all [Part.reserves, Part.fee, Part.status, Pair.tokens]

/-- The part of a state that identifies it: its pair, its tokens and its provenance, which
is the greatest one. The tokens are known if any of the written states knows them. -/
structure Identified (us : List Pair) (p : Pair) : Prop where
  address : ∀ u ∈ us, u.address = p.address
  top : ∃ u ∈ us, u.provenance = p.provenance ∧ (p.knowsTokens = false → u.tokens = p.tokens)
  newest : ∀ u ∈ us, u.provenance.rank ≤ p.provenance.rank
  identity : p.knowsTokens = true → ∃ u ∈ us, u.tokens = p.tokens
  known : ∀ u ∈ us, u.knowsTokens = true → p.knowsTokens = true

structure Settled (us : List Pair) (p : Pair) : Prop extends Identified us p where
  reserves : Part.reserves.Settled us p
  fee : Part.fee.Settled us p
  status : Part.status.Settled us p

namespace Identified

variable {us vs : List Pair} {p q : Pair}

theorem single : Identified [p] p where
  address := by simp
  top := ⟨p, by simp⟩
  newest := by simp
  identity _ := ⟨p, by simp⟩
  known := by simp

theorem congr (identified : Identified us p) (same : ∀ u, u ∈ us ↔ u ∈ vs) : Identified vs p where
  address u member := identified.address u ((same u).mpr member)
  top := by simpa only [same] using identified.top
  newest u member := identified.newest u ((same u).mpr member)
  identity := by simpa only [same] using identified.identity
  known u member := identified.known u ((same u).mpr member)

theorem joinOrdered (newer : Identified us p) (older : Identified vs q) (same : p.address = q.address)
    (ranked : q.provenance.rank ≤ p.provenance.rank) :
    Identified (us ++ vs) (joinOrdered p q) := by
  have side := p.laterPart_fst q statusSince
  have tokens := tokens_joinOrdered p q
  have knows := knowsTokens_congr tokens
  refine ⟨?address, ?top, ?newest, ?identity, ?known⟩
  case address =>
    intro u member
    rcases List.mem_append.mp member with member | member
    · exact newer.address u member
    · exact (older.address u member).trans same.symm
  case newest =>
    intro u member
    rcases List.mem_append.mp member with member | member
    · exact newer.newest u member
    · exact (older.newest u member).trans ranked
  case top =>
    obtain ⟨u, member, written, content⟩ := newer.top
    refine ⟨u, List.mem_append_left _ member, written, fun unknown => ?_⟩
    rcases identitySource_cases side with ⟨known, _⟩ | ⟨source, unknown', _⟩
    · rw [knows, known] at unknown
      cases unknown
    · rw [tokens, source]
      exact content unknown'
  case identity =>
    intro known
    rcases identitySource_cases side with ⟨known', source | source⟩ | ⟨source, unknown, _⟩
    · obtain ⟨u, member, content⟩ := newer.identity (source ▸ known')
      exact ⟨u, List.mem_append_left _ member, by rw [tokens, source, content]⟩
    · obtain ⟨u, member, content⟩ := older.identity (source ▸ known')
      exact ⟨u, List.mem_append_right _ member, by rw [tokens, source, content]⟩
    · rw [knows, source, unknown] at known
      cases known
  case known =>
    intro u member known
    rw [knows]
    rcases identitySource_cases side with ⟨known', _⟩ | ⟨_, unknown, unknown'⟩
    · exact known'
    · rcases List.mem_append.mp member with member | member
      · rw [newer.known u member known] at unknown
        cases unknown
      · rw [older.known u member known] at unknown'
        cases unknown'

theorem join (left : Identified us p) (right : Identified vs q) (same : p.address = q.address) :
    Identified (us ++ vs) (p.join q) := by
  rcases join_cases p q with ⟨joined, ranked⟩ | ⟨joined, ranked⟩
  · rw [joined]
    refine (right.joinOrdered left same.symm ranked.le).congr fun u => ?_
    rw [List.mem_append, List.mem_append, or_comm]
  · rw [joined]
    exact left.joinOrdered right same ranked

section Unique

variable (first : Identified us p) (second : Identified us q) (consistent : Consistent us)

include first second

theorem address_eq : p.address = q.address := by
  obtain ⟨u, member, _⟩ := first.top
  exact (first.address u member).symm.trans (second.address u member)

theorem provenance_eq : p.provenance = q.provenance := by
  obtain ⟨u, member, top, _⟩ := first.top
  obtain ⟨v, member', top', _⟩ := second.top
  apply Provenance.rank_injective
  apply le_antisymm
  · rw [← top]
    exact second.newest u member
  · rw [← top']
    exact first.newest v member'

theorem known_of_known (known : p.knowsTokens = true) : q.knowsTokens = true := by
  obtain ⟨u, writer, same⟩ := first.identity known
  exact second.known u writer ((knowsTokens_congr same).trans known)

include consistent

theorem tokens_eq : p.tokens = q.tokens := by
  cases known : p.knowsTokens with
  | false =>
    have unknown : q.knowsTokens = false := by
      by_contra known'
      rw [second.known_of_known first (Bool.eq_true_of_not_eq_false known')] at known
      cases known
    obtain ⟨u, member, top, content⟩ := first.top
    obtain ⟨v, member', top', content'⟩ := second.top
    have same : u = v := by
      apply consistent.distinct u member v member'
      rw [top, top', first.provenance_eq second]
    rw [← content known, ← content' unknown, same]
  | true =>
    obtain ⟨u, writer, same⟩ := first.identity known
    obtain ⟨v, writer', same'⟩ := second.identity (first.known_of_known second known)
    rw [← same, ← same']
    apply consistent.identity u writer v writer'
    · rw [knowsTokens_congr same, known]
    · rw [knowsTokens_congr same', first.known_of_known second known]

end Unique

end Identified

namespace Settled

variable {us vs : List Pair} {p q : Pair}

theorem single (written : p.earlier = .none) : Settled [p] p where
  toIdentified := .single
  reserves := .single (Part.noted_reserves written)
  fee := .single (Part.noted_fee written)
  status := .single (Part.noted_status written)

theorem congr (settled : Settled us p) (same : ∀ u, u ∈ us ↔ u ∈ vs) : Settled vs p where
  toIdentified := settled.toIdentified.congr same
  reserves := settled.reserves.congr same
  fee := settled.fee.congr same
  status := settled.status.congr same

theorem joinOrdered (newer : Settled us p) (older : Settled vs q) (same : p.address = q.address)
    (ranked : q.provenance.rank ≤ p.provenance.rank) :
    Settled (us ++ vs) (joinOrdered p q) := by
  have below := Provenance.position_le_of_rank_le ranked
  exact ⟨newer.toIdentified.joinOrdered older.toIdentified same ranked,
    newer.reserves.joinOrdered older.reserves below, newer.fee.joinOrdered older.fee below,
    newer.status.joinOrdered older.status below⟩

theorem join (left : Settled us p) (right : Settled vs q) (same : p.address = q.address) :
    Settled (us ++ vs) (p.join q) := by
  rcases join_cases p q with ⟨joined, ranked⟩ | ⟨joined, ranked⟩
  · rw [joined]
    refine (joinOrdered right left same.symm ranked.le).congr fun u => ?_
    rw [List.mem_append, List.mem_append, or_comm]
  · rw [joined]
    exact joinOrdered left right same ranked

section Carried

variable (settled : Settled us p) (written : ∀ u ∈ us, u.earlier = .none)

include settled written

theorem carried_reserves (since : Part.reserves.since p ≠ none) : Part.reserves.carried p = true := by
  obtain ⟨writtenAt, since⟩ := Option.ne_none_iff_exists'.mp since
  obtain ⟨u, _, carried, value, _⟩ := settled.reserves.source
    (fun u member => Part.noted_reserves (written u member)) since
  simp only [Part.reserves, Prod.mk.injEq] at carried value ⊢
  rwa [value.1, value.2] at carried

theorem carried_fee (since : Part.fee.since p ≠ none) : Part.fee.carried p = true := by
  obtain ⟨writtenAt, since⟩ := Option.ne_none_iff_exists'.mp since
  obtain ⟨u, _, carried, value, _⟩ := settled.fee.source
    (fun u member => Part.noted_fee (written u member)) since
  simp only [Part.fee] at carried value ⊢
  rwa [value] at carried

theorem carried_status (since : Part.status.since p ≠ none) : Part.status.carried p = true := by
  obtain ⟨writtenAt, since⟩ := Option.ne_none_iff_exists'.mp since
  obtain ⟨u, member, carried, value, _⟩ := settled.status.source
    (fun u member => Part.noted_status (written u member)) since
  simp only [Part.status, Bool.or_eq_true] at carried value ⊢
  rw [value] at carried
  exact carried.imp id (settled.known u member)

end Carried

/-- Written states may be taken in any order and more than once: if they are
consistent, they come to one state. -/
theorem unique (settled : Settled us p) (other : Settled us q) (consistent : Consistent us) :
    p = q := by
  have written : ∀ u ∈ us, u.earlier = .none := consistent.written
  have provenance := settled.provenance_eq other.toIdentified
  apply ext_parts
  · exact settled.address_eq other.toIdentified
  · exact settled.tokens_eq other.toIdentified consistent
  · exact provenance
  · exact settled.reserves.parts_eq other.reserves consistent provenance
      fun u member => Part.noted_reserves (written u member)
  · exact settled.fee.parts_eq other.fee consistent provenance
      fun u member => Part.noted_fee (written u member)
  · exact settled.status.parts_eq other.status consistent provenance
      fun u member => Part.noted_status (written u member)

end Settled

inductive Leaves : List Pair → Option Pair → Prop
  | nothing : Leaves [] none
  | state {us : List Pair} {p : Pair} (settled : Settled us p) : Leaves us (some p)

namespace Leaves

variable {us vs : List Pair} {left right : Option Pair}

theorem eq_nil_of_none (leaves : Leaves us none) : us = [] := by
  cases leaves
  rfl

theorem settled_of_some {p : Pair} (leaves : Leaves us (some p)) : Settled us p := by
  cases leaves with
  | state settled => exact settled

theorem congr (leaves : Leaves us left) (same : ∀ u, u ∈ us ↔ u ∈ vs) : Leaves vs left := by
  cases leaves with
  | nothing =>
    have empty : vs = [] := List.eq_nil_iff_forall_not_mem.mpr fun u member => by
      simpa using (same u).mpr member
    rw [empty]
    exact .nothing
  | state settled => exact .state (settled.congr same)

theorem unique (leaves : Leaves us left) (leaves' : Leaves us right) (consistent : Consistent us) :
    left = right := by
  cases leaves with
  | nothing =>
    cases leaves' with
    | nothing => rfl
    | state settled =>
      obtain ⟨u, member, _⟩ := settled.top
      cases member
  | state settled =>
    cases leaves' with
    | nothing =>
      obtain ⟨u, member, _⟩ := settled.top
      cases member
    | state settled' => rw [settled.unique settled' consistent]

theorem join (leaves : Leaves us left) (leaves' : Leaves vs right)
    (same : ∀ p ∈ left, ∀ q ∈ right, p.address = q.address) :
    Leaves (us ++ vs) (Option.merge Pair.join left right) := by
  cases leaves with
  | nothing => simpa using leaves'
  | state settled =>
    cases leaves' with
    | nothing =>
      rw [List.append_nil]
      exact .state settled
    | state settled' => exact .state (settled.join settled' (same _ rfl _ rfl))

end Leaves

end Pair

end SwapLoops
