import Mathlib
import SwapLoops.Pair.Join

/-! Positions are linearly ordered, and so are the provenances of states: by
position first, then by the time of observation. A join takes the side that is
later in this second order as the newer one. -/

namespace SwapLoops

namespace Position

def key (p : Position) : ℕ ×ₗ ℕ ×ₗ ℕ := toLex (p.block.toNat, toLex (p.tx.toNat, p.log.toNat))

theorem key_injective : Function.Injective key := by
  rintro ⟨block, tx, log⟩ ⟨block', tx', log'⟩ same
  simpa [key, UInt64.toNat_inj] using same

theorem lt_iff_key {p q : Position} : p < q ↔ p.key < q.key := by
  change Before p q ↔ _
  simp only [Before, key, Prod.Lex.toLex_lt_toLex, UInt64.lt_iff_toNat_lt, UInt64.toNat_inj]

instance : LinearOrder Position where
  le p q := p.key ≤ q.key
  lt := (· < ·)
  le_refl p := le_refl p.key
  le_trans _ _ _ := le_trans
  le_antisymm _ _ below above := key_injective (le_antisymm below above)
  lt_iff_le_not_ge _ _ := lt_iff_key.trans lt_iff_le_not_ge
  le_total p q := le_total p.key q.key
  toDecidableLE p q := inferInstanceAs (Decidable (p.key ≤ q.key))
  toDecidableEq := inferInstance
  toDecidableLT := inferInstance

end Position

namespace Provenance

def rank (p : Provenance) : Position ×ₗ ℤ := toLex (p.position, p.observedAt.toInt)

theorem rank_injective : Function.Injective rank := by
  rintro ⟨position, seen⟩ ⟨position', seen'⟩ same
  simpa [rank, Int64.toInt_inj] using same

theorem position_le_of_rank_le {p q : Provenance} (ranked : p.rank ≤ q.rank) :
    p.position ≤ q.position := by
  rcases Prod.Lex.toLex_le_toLex.mp ranked with below | ⟨same, _⟩
  · exact below.le
  · exact same.le

theorem rank_lt_of_position_lt {p q : Provenance} (below : p.position < q.position) :
    p.rank < q.rank :=
  Prod.Lex.toLex_lt_toLex.mpr (Or.inl below)

end Provenance

namespace Pair

theorem newerThan_iff_rank {p q : Pair} : p.NewerThan q ↔ q.provenance.rank < p.provenance.rank := by
  simp only [NewerThan, Provenance.Succeeds, Provenance.rank, Prod.Lex.toLex_lt_toLex,
    Int64.lt_iff_toInt_lt, eq_comm]

theorem provenance_joinOrdered (newer older : Pair) :
    (joinOrdered newer older).provenance = newer.provenance := rfl

theorem join_cases (p q : Pair) :
    p.join q = joinOrdered q p ∧ p.provenance.rank < q.provenance.rank ∨
      p.join q = joinOrdered p q ∧ q.provenance.rank ≤ p.provenance.rank := by
  by_cases newer : q.NewerThan p
  · exact Or.inl ⟨if_pos newer, newerThan_iff_rank.mp newer⟩
  · exact Or.inr ⟨if_neg newer, not_lt.mp (mt newerThan_iff_rank.mpr newer)⟩

theorem rank_join (p q : Pair) :
    (p.join q).provenance.rank = max p.provenance.rank q.provenance.rank := by
  rcases join_cases p q with ⟨joined, below⟩ | ⟨joined, below⟩
  · rw [joined, provenance_joinOrdered, max_eq_right below.le]
  · rw [joined, provenance_joinOrdered, max_eq_left below]

end Pair

end SwapLoops
