import SwapLoops.Proofs.Pair.Settled

/-! How far a state has come: its place in the order of states, where its parts were written
last, and whether it knows its tokens. A join has come exactly as far as its two sides
together, and it is one of the sides if that one has come as far as the other. -/

namespace SwapLoops

namespace Part

variable {α : Type} {part : Part α} {p q : Pair}

theorem rank_entry_join (datedLeft : part.Dated p) (datedRight : part.Dated q) :
    (part.entry (p.join q)).rank = (part.entry p).rank ⊔ (part.entry q).rank := by
  rcases lt_or_ge p.provenance.rank q.provenance.rank with ranked | ranked
  · rw [entry_join_of_rank_lt datedLeft datedRight ranked, Entry.rank_later, max_comm]
  · rw [entry_join_of_rank_le datedLeft datedRight ranked, Entry.rank_later]

theorem laterPart_of_rank_le (below : (part.entry q).rank ≤ (part.entry p).rank) :
    p.laterPart q part.since = (p, part.since p) := by
  rw [rank_entry, rank_entry] at below
  unfold Pair.laterPart
  cases second : part.since q with
  | none => cases part.since p <;> rfl
  | some o =>
    rw [second] at below
    cases first : part.since p with
    | none =>
      rw [first] at below
      exact absurd below (WithBot.not_coe_le_bot o)
    | some n =>
      rw [first] at below
      exact if_neg (not_lt.mpr (WithBot.coe_le_coe.mp below))

theorem joinOrdered_part_eq (dated : part.Dated p) (below : (part.entry q).rank ≤ (part.entry p).rank) :
    part.value (Pair.joinOrdered p q) = part.value p ∧ part.noted (Pair.joinOrdered p q) = part.noted p := by
  rw [part.value_joinOrdered, part.noted_joinOrdered, laterPart_of_rank_le below]
  exact ⟨rfl, (noted_eq_filter dated).symm⟩

end Part

namespace Pair

variable {p q : Pair}

theorem knowsTokens_joinOrdered (newer older : Pair) :
    (joinOrdered newer older).knowsTokens = (newer.knowsTokens || older.knowsTokens) := by
  rw [knowsTokens_congr (tokens_joinOrdered newer older)]
  rcases identitySource_cases (newer.laterPart_fst older statusSince) with
    ⟨known, same | same⟩ | ⟨same, unknown, unknown'⟩
  · rw [known, ← same, known, Bool.true_or]
  · rw [known, ← same, known, Bool.or_true]
  · rw [same, unknown, unknown', Bool.or_false]

theorem knowsTokens_join (p q : Pair) :
    (p.join q).knowsTokens = (p.knowsTokens || q.knowsTokens) := by
  rcases join_cases p q with ⟨joined, _⟩ | ⟨joined, _⟩
  · rw [joined, knowsTokens_joinOrdered, Bool.or_comm]
  · rw [joined, knowsTokens_joinOrdered]

structure Dated (p : Pair) : Prop where
  reserves : Part.reserves.Dated p
  fee : Part.fee.Dated p
  status : Part.status.Dated p

theorem dated_of_written (written : p.earlier = .none) : p.Dated where
  reserves := Part.dated_of_unnoted (Part.noted_reserves written)
  fee := Part.dated_of_unnoted (Part.noted_fee written)
  status := Part.dated_of_unnoted (Part.noted_status written)

theorem Dated.join (left : p.Dated) (right : q.Dated) : (p.join q).Dated where
  reserves := Part.dated_join left.reserves right.reserves
  fee := Part.dated_join left.fee right.fee
  status := Part.dated_join left.status right.status

/-- The places in the chain that a state has come to, and whether it knows its tokens. They
are compared one by one. -/
abbrev Reach := (Position ×ₗ ℤ) × WithBot Position × WithBot Position × WithBot Position × Bool

def reach (p : Pair) : Reach :=
  (p.provenance.rank, (Part.reserves.entry p).rank, (Part.fee.entry p).rank,
    (Part.status.entry p).rank, p.knowsTokens)

theorem reach_join (left : p.Dated) (right : q.Dated) : (p.join q).reach = p.reach ⊔ q.reach := by
  have reserves := Part.rank_entry_join left.reserves right.reserves
  have fee := Part.rank_entry_join left.fee right.fee
  have status := Part.rank_entry_join left.status right.status
  exact Prod.ext (rank_join p q)
    (Prod.ext reserves (Prod.ext fee (Prod.ext status (knowsTokens_join p q))))

/-- A state takes nothing from one that has not come further. -/
theorem joinOrdered_eq_left (dated : p.Dated) (reached : q.reach ≤ p.reach) :
    joinOrdered p q = p := by
  obtain ⟨_, reserves, fee, status, tokens⟩ := reached
  have known : identitySource p p q = p := by
    unfold identitySource
    split_ifs with first second
    · rfl
    · exact absurd (tokens second) first
    · rfl
  apply ext_parts
  · rfl
  · have source : p.laterPart q statusSince = (p, p.statusSince) :=
      @Part.laterPart_of_rank_le _ Part.status p q status
    rw [tokens_joinOrdered, source, known]
  · rfl
  · exact Part.joinOrdered_part_eq dated.reserves reserves
  · exact Part.joinOrdered_part_eq dated.fee fee
  · exact Part.joinOrdered_part_eq dated.status status

theorem join_eq_left_iff (left : p.Dated) (right : q.Dated) : p.join q = p ↔ q.reach ≤ p.reach := by
  constructor
  · intro same
    rw [← sup_eq_left, ← reach_join left right, same]
  · intro reached
    rcases join_cases p q with ⟨_, ranked⟩ | ⟨joined, _⟩
    · exact absurd ranked (not_lt.mpr reached.1)
    · rw [joined, joinOrdered_eq_left left reached]

end Pair
end SwapLoops
