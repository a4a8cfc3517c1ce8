import SwapLoops.Proofs.Pair.Settled

/-! A state that is kept without its notes. Each part that it carries passes for as new
as the state, so a part that was written in between is taken for an older one. -/

namespace SwapLoops

namespace Pair

def forgetEarlier (p : Pair) : Pair := { p with earlier := .none }

theorem forgetEarlier_eq_iff {p q : Pair} : p.forgetEarlier = q.forgetEarlier ↔
    p.address = q.address ∧ p.tokens = q.tokens ∧ p.provenance = q.provenance ∧
      Part.reserves.value p = Part.reserves.value q ∧ Part.fee.value p = Part.fee.value q ∧
      Part.status.value p = Part.status.value q := by
  obtain ⟨⟨⟩, _, _, _, _, _, _, _, _, _⟩ := p
  obtain ⟨⟨⟩, _, _, _, _, _, _, _, _, _⟩ := q
  simp only [forgetEarlier, tokens, Part.reserves, Part.fee, Part.status, mk.injEq, Prod.mk.injEq]
  tauto

end Pair

namespace Part

variable {α : Type} {part : Part α}

/-- A kept state hides what `q` wrote: later than the part was written in `p`, before the
position that `p` has as a whole, and to another value. -/
def Hides (part : Part α) (p q : Pair) : Prop :=
  ∃ noted ∈ part.noted p, ∃ writtenAt ∈ part.since q,
    noted < writtenAt ∧ writtenAt < p.provenance.position ∧ part.value q ≠ part.value p

instance [DecidableEq α] (part : Part α) (p q : Pair) : Decidable (part.Hides p q) :=
  inferInstanceAs (Decidable (∃ noted ∈ part.noted p, ∃ writtenAt ∈ part.since q,
    noted < writtenAt ∧ writtenAt < p.provenance.position ∧ part.value q ≠ part.value p))

section Hidden

variable {p q : Pair}

theorem not_hides_of_unwritten (since : part.since p = none) : ¬part.Hides p q := by
  rintro ⟨noted, present, _⟩
  rw [since_of_noted present] at since
  cases since

theorem hides_iff (dated : part.Dated p) {earlier writtenAt : Position}
    (since : part.since p = some earlier) (written : part.since q = some writtenAt) :
    part.Hides p q ↔ earlier < writtenAt ∧ writtenAt < p.provenance.position ∧
      part.value q ≠ part.value p := by
  constructor
  · rintro ⟨noted, present, w, same, order⟩
    rw [since_of_noted present, Option.some.injEq] at since
    rw [written, Option.mem_some] at same
    rwa [since, ← same] at order
  · rintro ⟨late, early, differs⟩
    -- A part older than its state is noted, and here it is older by `writtenAt`.
    have noted := noted_eq_filter dated
    rw [since, Option.filter_some, if_pos (by simpa using (late.trans early).ne)] at noted
    exact ⟨earlier, noted, writtenAt, written, late, early, differs⟩

end Hidden

structure Persists (part : Part α) : Prop where
  value : ∀ p : Pair, part.value p.forgetEarlier = part.value p
  carried : ∀ p : Pair, part.carried p.forgetEarlier = part.carried p
  unnoted : ∀ p : Pair, part.noted p.forgetEarlier = none

theorem reserves_persists : reserves.Persists := ⟨fun _ => rfl, fun _ => rfl, fun _ => rfl⟩

theorem fee_persists : fee.Persists := ⟨fun _ => rfl, fun _ => rfl, fun _ => rfl⟩

theorem status_persists : status.Persists := ⟨fun _ => rfl, fun _ => rfl, fun _ => rfl⟩

namespace Persists

variable (persists : part.Persists)

include persists

theorem dated (p : Pair) : part.Dated p.forgetEarlier := dated_of_unnoted (persists.unnoted p)

theorem entry_forgetEarlier (p : Pair) : part.entry p.forgetEarlier =
    if part.carried p then some (p.provenance.position, part.value p) else none := by
  rw [entry_of_unnoted (persists.unnoted p), persists.carried, persists.value]
  rfl

theorem since_forgetEarlier (p : Pair) : part.since p.forgetEarlier =
    if part.carried p then some p.provenance.position else none := by
  rw [since_eq_entry, persists.entry_forgetEarlier]
  split_ifs <;> rfl

variable {p q : Pair}

/-- Keeping a state before it is joined changes a part just where it hides the other side. -/
theorem value_join_iff (dated : part.Dated p) (dated' : part.Dated q)
    (carries : part.since p ≠ none → part.carried p = true)
    (apart : ∀ writtenAt ∈ part.since q, part.since p ≠ some writtenAt ∧ p.provenance.position ≠ writtenAt) :
    part.value (p.forgetEarlier.join q) = part.value (p.join q) ↔ ¬part.Hides p q := by
  have direct := value_join dated dated' fun writtenAt written => (apart writtenAt written).1
  have kept := value_join (persists.dated p) dated' fun writtenAt written same => by
    rw [persists.since_forgetEarlier] at same
    split_ifs at same
    exact (apart writtenAt written).2 (Option.some.inj same)
  rw [kept, direct, persists.since_forgetEarlier, persists.value]
  cases since : part.since p with
  | none =>
    simp only [carried_of_since_eq_none since, Bool.false_eq_true, ↓reduceIte,
      not_hides_of_unwritten since, not_false_eq_true]
  | some earlier =>
    have carried := carries (by rw [since]; exact Option.some_ne_none _)
    cases written : part.since q with
    | none => simp [Hides, written]
    | some writtenAt =>
      have bound := since_le_position dated since
      rw [hides_iff dated since written, carried]
      simp only [↓reduceIte, Option.mem_some, forall_eq', exists_eq_left']
      rcases lt_or_gt_of_ne (apart writtenAt written).2 with top | inside
      · simp [top, bound.trans_lt top, top.not_gt]
      · by_cases late : earlier < writtenAt
        · simp [inside.not_gt, late, inside, eq_comm]
        · simp [inside.not_gt, late]

end Persists

namespace Settled

variable {us : List Pair} {p : Pair} (settled : part.Settled us p)
  (unnoted : ∀ u ∈ us, part.noted u = none)

include settled unnoted

theorem apart {vs : List Pair} {q : Pair} (other : part.Settled vs q)
    (unnoted' : ∀ v ∈ vs, part.noted v = none)
    (positions : ∀ u ∈ us, ∀ v ∈ vs, u.provenance.position ≠ v.provenance.position)
    (top : ∃ u ∈ us, u.provenance = p.provenance) :
    ∀ writtenAt ∈ part.since q, part.since p ≠ some writtenAt ∧ p.provenance.position ≠ writtenAt := by
  intro writtenAt written
  obtain ⟨v, member, _, _, rfl⟩ := other.source unnoted' (Option.mem_def.mp written)
  constructor
  · intro since
    obtain ⟨u, member', _, _, same⟩ := settled.source unnoted since
    exact positions u member' v member same
  · obtain ⟨u, member', same⟩ := top
    rw [← same]
    exact positions u member' v member

end Settled

end Part

namespace Pair

def Hides (p q : Pair) : Prop :=
  Part.reserves.Hides p q ∨ Part.fee.Hides p q ∨ Part.status.Hides p q

instance (p q : Pair) : Decidable (p.Hides q) := inferInstanceAs (Decidable (_ ∨ _ ∨ _))

namespace Settled

variable {us vs : List Pair} {p q : Pair}

theorem consistent_forgetEarlier (settled : Settled us p) (consistent : Consistent (us ++ vs))
    (apart : ∀ u ∈ us, ∀ v ∈ vs, u.provenance.position ≠ v.provenance.position) :
    Consistent (p.forgetEarlier :: vs) := by
  have among : ∀ v ∈ vs, v ∈ us ++ vs := fun v => List.mem_append_right _
  have newer : ∀ v ∈ vs, p.provenance.position ≠ v.provenance.position := by
    obtain ⟨u, member, same, _⟩ := settled.top
    exact fun v member' => same ▸ apart u member v member'
  have identity : p.knowsTokens = true → ∀ v ∈ vs, v.knowsTokens = true → p.tokens = v.tokens := by
    intro known v member' known'
    obtain ⟨u, member, same⟩ := settled.identity known
    rw [← same]
    exact consistent.identity u (List.mem_append_left _ member) v (among v member')
      ((knowsTokens_congr same).trans known) known'
  refine ⟨?written, ?distinct, ?identity⟩
  case written =>
    intro u member
    rcases List.mem_cons.mp member with rfl | member
    · rfl
    · exact consistent.written u (among u member)
  case distinct =>
    intro u member v member' same
    rcases List.mem_cons.mp member with rfl | member
    · rcases List.mem_cons.mp member' with rfl | member'
      · rfl
      · exact absurd same (newer v member')
    · rcases List.mem_cons.mp member' with rfl | member'
      · exact absurd same.symm (newer u member)
      · exact consistent.distinct u (among u member) v (among v member') same
  case identity =>
    intro u member v member' known known'
    rcases List.mem_cons.mp member with rfl | member
    · rcases List.mem_cons.mp member' with rfl | member'
      · rfl
      · exact identity known v member' known'
    · rcases List.mem_cons.mp member' with rfl | member'
      · exact (identity known' u member known).symm
      · exact consistent.identity u (among u member) v (among v member') known known'

variable (settled : Settled us p) (other : Settled vs q) (same : p.address = q.address)

include settled other same

theorem identified_join_forgetEarlier : Identified (us ++ vs) (p.forgetEarlier.join q) :=
  have kept : Identified us p.forgetEarlier :=
    ⟨settled.address, settled.top, settled.newest, settled.identity, settled.known⟩
  kept.join other.toIdentified same

theorem forgetEarlier_join_iff (consistent : Consistent (us ++ vs))
    (apart : ∀ u ∈ us, ∀ v ∈ vs, u.provenance.position ≠ v.provenance.position) :
    (p.forgetEarlier.join q).forgetEarlier = (p.join q).forgetEarlier ↔ ¬p.Hides q := by
  have written : ∀ u ∈ us, u.earlier = .none := fun u member =>
    consistent.written u (List.mem_append_left _ member)
  have written' : ∀ v ∈ vs, v.earlier = .none := fun v member =>
    consistent.written v (List.mem_append_right _ member)
  have top : ∃ u ∈ us, u.provenance = p.provenance := by
    obtain ⟨u, member, same, _⟩ := settled.top
    exact ⟨u, member, same⟩
  have reserves := Part.reserves_persists.value_join_iff settled.reserves.dated other.reserves.dated
    (settled.carried_reserves written)
    (settled.reserves.apart (fun u member => Part.noted_reserves (written u member))
      other.reserves (fun v member => Part.noted_reserves (written' v member)) apart top)
  have fee := Part.fee_persists.value_join_iff settled.fee.dated other.fee.dated
    (settled.carried_fee written)
    (settled.fee.apart (fun u member => Part.noted_fee (written u member))
      other.fee (fun v member => Part.noted_fee (written' v member)) apart top)
  have status := Part.status_persists.value_join_iff settled.status.dated other.status.dated
    (settled.carried_status written)
    (settled.status.apart (fun u member => Part.noted_status (written u member))
      other.status (fun v member => Part.noted_status (written' v member)) apart top)
  have kept := settled.identified_join_forgetEarlier other same
  have direct := (settled.join other same).toIdentified
  rw [forgetEarlier_eq_iff, reserves, fee, status, Hides, not_or, not_or]
  simp only [kept.address_eq direct, kept.tokens_eq direct consistent, kept.provenance_eq direct,
    true_and]

end Settled

namespace Leaves

variable {us vs : List Pair} {left right : Option Pair}

theorem keep (leaves : Leaves us left) :
    Leaves (left.map forgetEarlier).toList (left.map forgetEarlier) := by
  cases leaves with
  | nothing => exact .nothing
  | state settled => exact .state (.single rfl)

variable (leaves : Leaves us left) (consistent : Consistent (us ++ vs))
  (apart : ∀ u ∈ us, ∀ v ∈ vs, u.provenance.position ≠ v.provenance.position)

include leaves consistent apart

theorem consistent_keep : Consistent ((left.map forgetEarlier).toList ++ vs) := by
  cases leaves with
  | nothing => exact consistent
  | state settled => exact settled.consistent_forgetEarlier consistent apart

/-- To keep a state before it is joined makes a difference just if it hides a part of the
other one. -/
theorem merge_keep_iff (leaves' : Leaves vs right)
    (same : ∀ p ∈ left, ∀ q ∈ right, p.address = q.address) :
    (Option.merge Pair.join (left.map forgetEarlier) right).map forgetEarlier =
        (Option.merge Pair.join left right).map forgetEarlier ↔
      ∀ p ∈ left, ∀ q ∈ right, ¬p.Hides q := by
  cases leaves with
  | nothing => simp
  | @state _ p settled =>
    cases leaves' with
    | nothing => simp [forgetEarlier]
    | @state _ q settled' =>
      have kept := settled.forgetEarlier_join_iff settled' (same p rfl q rfl) consistent apart
      simpa using kept

end Leaves

end Pair

end SwapLoops
