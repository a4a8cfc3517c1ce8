import SwapLoops.Proofs.RateGraph.Building

/-! The rate graph of a list of pairs with its weights taken as real numbers, so that the
rates lose nothing in rounding. -/

namespace SwapLoops

noncomputable def exactRate (reserveIn reserveOut : Word) (fee : UInt32) : ℝ :=
  if reserveIn = 0 ∨ feeBase ≤ fee then 0
  else reserveOut.toNat / reserveIn.toNat * ((feeBase - fee).toNat / feeBase.toNat)

noncomputable def Pair.exactQuote (p : Pair) (index : Nat) : Quote ℝ :=
  ⟨index, p.address, p.token0, p.token1,
    -Real.log (exactRate p.reserve0 p.reserve1 p.chargedFee),
    -Real.log (exactRate p.reserve1 p.reserve0 p.chargedFee)⟩

section Rates

variable {reserveIn reserveOut : Word} {fee : UInt32}

theorem toNat_pos_of_ne_zero (liquid : reserveIn ≠ 0) : (0 : ℝ) < reserveIn.toNat := by
  rw [Nat.cast_pos, Nat.pos_iff_ne_zero]
  exact fun zero => liquid (BitVec.toNat_inj.mp (zero.trans BitVec.toNat_zero.symm))

noncomputable def shareAfterFee (fee : UInt32) : ℝ := (feeBase - fee).toNat / feeBase.toNat

theorem shareAfterFee_pos (below : fee < feeBase) : 0 < shareAfterFee fee := by
  have left : 0 < (feeBase - fee).toNat := by
    rw [UInt32.toNat_sub_of_le _ _ (UInt32.le_of_lt below)]
    exact Nat.sub_pos_of_lt below
  exact div_pos (Nat.cast_pos.mpr left) (Nat.cast_pos.mpr (by decide))

theorem shareAfterFee_le_one (below : fee < feeBase) : shareAfterFee fee ≤ 1 := by
  apply div_le_one_of_le₀ _ (Nat.cast_nonneg _)
  rw [Nat.cast_le, UInt32.toNat_sub_of_le _ _ (UInt32.le_of_lt below)]
  exact Nat.sub_le _ _

theorem exactRate_eq (liquid : reserveIn ≠ 0) (below : fee < feeBase) :
    exactRate reserveIn reserveOut fee =
      reserveOut.toNat / reserveIn.toNat * shareAfterFee fee :=
  if_neg (not_or.mpr ⟨liquid, UInt32.not_le.mpr below⟩)

theorem exactRate_free (liquid : reserveIn ≠ 0) :
    exactRate reserveIn reserveOut 0 = reserveOut.toNat / reserveIn.toNat := by
  have whole : shareAfterFee 0 = 1 := div_self (Nat.cast_ne_zero.mpr (by decide))
  rw [exactRate_eq liquid (by decide), whole, mul_one]

theorem exactRate_pos (liquidIn : reserveIn ≠ 0) (liquidOut : reserveOut ≠ 0)
    (below : fee < feeBase) : 0 < exactRate reserveIn reserveOut fee := by
  rw [exactRate_eq liquidIn below]
  exact mul_pos (div_pos (toNat_pos_of_ne_zero liquidOut) (toNat_pos_of_ne_zero liquidIn))
    (shareAfterFee_pos below)

theorem exactRate_mul_exactRate (liquidIn : reserveIn ≠ 0) (liquidOut : reserveOut ≠ 0)
    (below : fee < feeBase) :
    exactRate reserveIn reserveOut fee * exactRate reserveOut reserveIn fee =
      shareAfterFee fee * shareAfterFee fee := by
  have positiveIn := toNat_pos_of_ne_zero liquidIn
  have positiveOut := toNat_pos_of_ne_zero liquidOut
  rw [exactRate_eq liquidIn below, exactRate_eq liquidOut below]
  field_simp

end Rates

namespace RateGraph

noncomputable def exactQuotes (pairs : List Pair) : List (Quote ℝ) :=
  (pairs.zipIdx.filter fun (p, _) => p.hasPrice).map fun (p, index) => p.exactQuote index

noncomputable def ofPairsExact (pairs : List Pair) : RateGraph ℝ :=
  empty.insertQuotes (exactQuotes pairs)

variable {pairs : List Pair}

theorem exists_pair_of_mem_exactQuotes {q : Quote ℝ} (quoted : q ∈ exactQuotes pairs) :
    ∃ p ∈ pairs, p.hasPrice = true ∧ ∃ index, p.exactQuote index = q := by
  obtain ⟨⟨p, index⟩, placed, quote⟩ := List.mem_map.mp quoted
  obtain ⟨listed, priced⟩ := List.mem_filter.mp placed
  exact ⟨p, List.fst_mem_of_mem_zipIdx listed, priced, index, quote⟩

theorem exactQuotes_tokens_ne : ∀ q ∈ exactQuotes pairs, q.token0 ≠ q.token1 := by
  intro q quoted
  obtain ⟨p, _, priced, index, rfl⟩ := exists_pair_of_mem_exactQuotes quoted
  simp only [Bool.and_eq_true, Pair.hasPrice, Pair.knowsTokens, bne_iff_ne] at priced
  exact priced.1.1.1.2.2

/-- There and back through one pair is no gain at exact rates. -/
theorem exactQuotes_back : ∀ q ∈ exactQuotes pairs, 0 ≤ q.weight0 + q.weight1 := by
  intro q quoted
  obtain ⟨p, _, priced, index, rfl⟩ := exists_pair_of_mem_exactQuotes quoted
  simp only [Bool.and_eq_true, Pair.hasPrice, bne_iff_ne, decide_eq_true_eq] at priced
  obtain ⟨⟨⟨_, liquid0⟩, liquid1⟩, below⟩ := priced
  have rate0 := exactRate_pos liquid0 liquid1 below
  have rate1 := exactRate_pos liquid1 liquid0 below
  have kept := shareAfterFee_pos below
  have share := mul_le_one₀ (shareAfterFee_le_one below) kept.le (shareAfterFee_le_one below)
  simp only [Pair.exactQuote]
  rw [← neg_add, ← Real.log_mul rate0.ne' rate1.ne', exactRate_mul_exactRate liquid0 liquid1 below,
    neg_nonneg]
  exact Real.log_nonpos (mul_pos kept kept).le share

theorem nodup_pair_exactQuotes (distinct : (pairs.map Pair.address).Nodup) :
    ((exactQuotes pairs).map Quote.pair).Nodup := by
  have listed : pairs.map Pair.address = pairs.zipIdx.map (Pair.address ∘ Prod.fst) := by
    rw [← List.map_map, List.zipIdx_map_fst]
  rw [listed] at distinct
  rw [exactQuotes, List.map_map]
  exact distinct.sublist (List.filter_sublist.map _)

end RateGraph

end SwapLoops
