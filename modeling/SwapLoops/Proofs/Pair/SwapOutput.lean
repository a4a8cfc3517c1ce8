import SwapLoops.Proofs.Pair.Hops

/-! What one swap pays, over the whole range of words. It is the floor of an exact quotient
wherever both terms of the quotient fit in a word, and nothing elsewhere. The pool is never
emptied and its product never shrinks. In pools of a realistic size nothing overflows, and more
is paid for a larger amount, from a larger reserve and at a lower fee. -/

namespace SwapLoops

/-- The amount net of the fee times the reserve that is paid out of, in parts of the fee base. -/
def swapDividend (amount reserveOut : Word) (fee : UInt32) : Nat :=
  amount.toNat * keptParts fee * reserveOut.toNat

def swapDivisor (amount reserveIn : Word) (fee : UInt32) : Nat :=
  reserveIn.toNat * feeBase.toNat + amount.toNat * keptParts fee

theorem le_max_toNat_iff {n : Nat} : n ≤ Word.max.toNat ↔ n < 2 ^ 256 := by
  rw [Word.max, BitVec.toNat_allOnes]
  omega

theorem keptParts_le (fee : UInt32) : keptParts fee ≤ feeBase.toNat := Nat.sub_le _ _

theorem keptParts_pos {fee : UInt32} (below : fee < feeBase) : 0 < keptParts fee :=
  Nat.sub_pos_of_lt (UInt32.lt_iff_toNat_lt.mp below)

theorem keptParts_anti {fee fee' : UInt32} (lower : fee' ≤ fee) : keptParts fee ≤ keptParts fee' :=
  Nat.sub_le_sub_left (UInt32.le_iff_toNat_le.mp lower) _

theorem toNat_pos_iff {w : Word} : 0 < w.toNat ↔ w ≠ 0 := by
  rw [Nat.pos_iff_ne_zero, ne_eq, ne_eq, ← BitVec.toNat_inj]
  rfl

section OneSwap

variable {amount reserveIn reserveOut : Word} {fee : UInt32}

theorem swapDivisor_pos (liquid : reserveIn ≠ 0) : 0 < swapDivisor amount reserveIn fee :=
  Nat.add_pos_left (Nat.mul_pos (toNat_pos_iff.mpr liquid) (by decide)) _

theorem swapOutput?_eq_some_of_lt (below : fee < feeBase) (liquid : reserveIn ≠ 0)
    (dividendFits : swapDividend amount reserveOut fee < 2 ^ 256)
    (divisorFits : swapDivisor amount reserveIn fee < 2 ^ 256) :
    ∃ out, swapOutput? amount reserveIn reserveOut fee = some out ∧
      out.toNat = swapDividend amount reserveOut fee / swapDivisor amount reserveIn fee := by
  have quotient : (BitVec.ofNat 256 (swapDividend amount reserveOut fee /
      swapDivisor amount reserveIn fee)).toNat = _ :=
    Word.toNat_ofNat_of_le ((Nat.div_le_self _ _).trans (le_max_toNat_iff.mpr dividendFits))
  exact ⟨_, (swapOutput?_eq_some_iff below).mpr ⟨le_max_toNat_iff.mpr dividendFits,
    le_max_toNat_iff.mpr divisorFits, swapDivisor_pos liquid, quotient⟩, quotient⟩

theorem swapOutput?_eq_none_iff (below : fee < feeBase) (liquid : reserveIn ≠ 0) :
    swapOutput? amount reserveIn reserveOut fee = none ↔
      2 ^ 256 ≤ swapDividend amount reserveOut fee ∨
        2 ^ 256 ≤ swapDivisor amount reserveIn fee := by
  constructor
  · intro missing
    by_contra fits
    rw [not_or, not_le, not_le] at fits
    obtain ⟨out, paid, _⟩ := swapOutput?_eq_some_of_lt below liquid fits.1 fits.2
    rw [missing] at paid
    cases paid
  · intro overflows
    cases paid : swapOutput? amount reserveIn reserveOut fee with
    | none => rfl
    | some out =>
      obtain ⟨dividendFits, divisorFits, _⟩ := (swapOutput?_eq_some_iff below).mp paid
      have dividendFits' := le_max_toNat_iff.mp dividendFits
      have divisorFits' := le_max_toNat_iff.mp divisorFits
      exact absurd overflows (not_or.mpr ⟨not_le.mpr dividendFits', not_le.mpr divisorFits'⟩)

structure Pays (amount reserveIn reserveOut : Word) (fee : UInt32) : Prop where
  given : amount ≠ 0
  liquid : reserveIn ≠ 0
  stocked : reserveOut ≠ 0
  below : fee < feeBase
  dividendFits : swapDividend amount reserveOut fee < 2 ^ 256
  divisorFits : swapDivisor amount reserveIn fee < 2 ^ 256

instance : Decidable (Pays amount reserveIn reserveOut fee) :=
  decidable_of_iff
    (amount ≠ 0 ∧ reserveIn ≠ 0 ∧ reserveOut ≠ 0 ∧ fee < feeBase ∧
      swapDividend amount reserveOut fee < 2 ^ 256 ∧ swapDivisor amount reserveIn fee < 2 ^ 256)
    ⟨fun ⟨given, liquid, stocked, below, dividendFits, divisorFits⟩ =>
        ⟨given, liquid, stocked, below, dividendFits, divisorFits⟩,
      fun ⟨given, liquid, stocked, below, dividendFits, divisorFits⟩ =>
        ⟨given, liquid, stocked, below, dividendFits, divisorFits⟩⟩

/-- A swap pays the floor of the exact quotient over the numbers, and else nothing. -/
theorem toNat_swapOutput (amount reserveIn reserveOut : Word) (fee : UInt32) :
    (swapOutput amount reserveIn reserveOut fee).toNat =
      if Pays amount reserveIn reserveOut fee then
        swapDividend amount reserveOut fee / swapDivisor amount reserveIn fee
      else 0 := by
  unfold swapOutput
  split_ifs with empty pays pays
  · refine absurd empty ?_
    rw [not_or, not_or, not_or, UInt32.not_le]
    exact ⟨pays.given, pays.liquid, pays.stocked, pays.below⟩
  · rfl
  · obtain ⟨out, paid, quotient⟩ :=
      swapOutput?_eq_some_of_lt pays.below pays.liquid pays.dividendFits pays.divisorFits
    rw [paid]
    exact quotient
  · simp only [not_or, UInt32.not_le] at empty
    obtain ⟨given, liquid, stocked, below⟩ := empty
    have missing : swapOutput? amount reserveIn reserveOut fee = none := by
      rw [swapOutput?_eq_none_iff below liquid, ← not_lt, ← not_lt, ← not_and_or]
      exact fun fits => pays ⟨given, liquid, stocked, below, fits.1, fits.2⟩
    rw [missing]
    rfl

/-- The last unit of a reserve is never paid out: the dividend would be the reserve times what
is only one part of the divisor. -/
theorem toNat_swapOutput_lt (stocked : 0 < reserveOut.toNat) :
    (swapOutput amount reserveIn reserveOut fee).toNat < reserveOut.toNat := by
  rw [toNat_swapOutput]
  split_ifs with pays
  · apply Nat.div_lt_of_lt_mul
    apply Nat.mul_lt_mul_of_pos_right _ stocked
    exact Nat.lt_add_of_pos_left (Nat.mul_pos (toNat_pos_iff.mpr pays.liquid) (by decide))
  · exact stocked

theorem toNat_swapOutput_mul_add_le :
    (swapOutput amount reserveIn reserveOut fee).toNat * (reserveIn.toNat + amount.toNat) ≤
      amount.toNat * reserveOut.toNat := by
  rw [toNat_swapOutput]
  split_ifs with pays
  · have kept := keptParts_pos pays.below
    -- Charging the fee on the old reserve as well makes the divisor smaller.
    have shrunk : (reserveIn.toNat + amount.toNat) * keptParts fee ≤
        swapDivisor amount reserveIn fee := by
      rw [Nat.add_mul]
      exact Nat.add_le_add_right (Nat.mul_le_mul_left _ (keptParts_le fee)) _
    apply Nat.le_of_mul_le_mul_right _ kept
    calc swapDividend amount reserveOut fee / swapDivisor amount reserveIn fee *
          (reserveIn.toNat + amount.toNat) * keptParts fee
      _ = swapDividend amount reserveOut fee / swapDivisor amount reserveIn fee *
          ((reserveIn.toNat + amount.toNat) * keptParts fee) := Nat.mul_assoc _ _ _
      _ ≤ swapDividend amount reserveOut fee / swapDivisor amount reserveIn fee *
          swapDivisor amount reserveIn fee := Nat.mul_le_mul_left _ shrunk
      _ ≤ swapDividend amount reserveOut fee := Nat.div_mul_le_self _ _
      _ = amount.toNat * reserveOut.toNat * keptParts fee := Nat.mul_right_comm _ _ _
  · simp

/-- The product of the reserves never shrinks. -/
theorem product_le_of_swap :
    reserveIn.toNat * reserveOut.toNat ≤ (reserveIn.toNat + amount.toNat) *
      (reserveOut.toNat - (swapOutput amount reserveIn reserveOut fee).toNat) := by
  have share : (swapOutput amount reserveIn reserveOut fee).toNat *
      (reserveIn.toNat + amount.toNat) ≤ amount.toNat * reserveOut.toNat :=
    toNat_swapOutput_mul_add_le
  rw [Nat.mul_sub, Nat.add_mul, Nat.mul_comm _ (swapOutput _ _ _ _).toNat]
  omega

theorem swapTerms_lt (fee : UInt32) (amountSmall : amount.toNat < 2 ^ 112)
    (inSmall : reserveIn.toNat < 2 ^ 112) (outSmall : reserveOut.toNat < 2 ^ 112) :
    swapDividend amount reserveOut fee < 2 ^ 256 ∧ swapDivisor amount reserveIn fee < 2 ^ 256 := by
  have net : amount.toNat * keptParts fee ≤ 2 ^ 112 * feeBase.toNat :=
    Nat.mul_le_mul amountSmall.le (keptParts_le fee)
  constructor
  · calc swapDividend amount reserveOut fee
      _ ≤ 2 ^ 112 * feeBase.toNat * 2 ^ 112 := Nat.mul_le_mul net outSmall.le
      _ < 2 ^ 256 := by decide
  · calc swapDivisor amount reserveIn fee
      _ ≤ 2 ^ 112 * feeBase.toNat + 2 ^ 112 * feeBase.toNat :=
        Nat.add_le_add (Nat.mul_le_mul_right _ inSmall.le) net
      _ < 2 ^ 256 := by decide

end OneSwap

theorem div_le_div_of_across {n d n' d' : Nat} (positive : 0 < d) (positive' : 0 < d')
    (across : n * d' ≤ n' * d) : n / d ≤ n' / d' := by
  rw [Nat.le_div_iff_mul_le positive']
  apply Nat.le_of_mul_le_mul_right _ positive
  calc n / d * d' * d
    _ = n / d * d * d' := Nat.mul_right_comm _ _ _
    _ ≤ n * d' := Nat.mul_le_mul_right _ (Nat.div_mul_le_self _ _)
    _ ≤ n' * d := across

section TwoSwaps

variable {amount amount' reserveIn reserveIn' reserveOut reserveOut' : Word} {fee fee' : UInt32}

theorem swapTerms_across (more : amount ≤ amount') (shallower : reserveIn' ≤ reserveIn)
    (deeper : reserveOut ≤ reserveOut') (lower : fee' ≤ fee) :
    swapDividend amount reserveOut fee * swapDivisor amount' reserveIn' fee' ≤
      swapDividend amount' reserveOut' fee' * swapDivisor amount reserveIn fee := by
  unfold swapDividend swapDivisor
  have net : amount.toNat * keptParts fee ≤ amount'.toNat * keptParts fee' :=
    Nat.mul_le_mul more (keptParts_anti lower)
  have paid : reserveIn'.toNat * feeBase.toNat ≤ reserveIn.toNat * feeBase.toNat :=
    Nat.mul_le_mul_right _ shallower
  generalize amount.toNat * keptParts fee = x at net ⊢
  generalize amount'.toNat * keptParts fee' = x' at net ⊢
  calc x * reserveOut.toNat * (reserveIn'.toNat * feeBase.toNat + x')
    _ ≤ x * reserveOut'.toNat * (reserveIn.toNat * feeBase.toNat + x') :=
      Nat.mul_le_mul (Nat.mul_le_mul_left _ deeper) (Nat.add_le_add_right paid _)
    _ = x * reserveOut'.toNat * (reserveIn.toNat * feeBase.toNat) + x' * reserveOut'.toNat * x := by
      ring
    _ ≤ x' * reserveOut'.toNat * (reserveIn.toNat * feeBase.toNat) + x' * reserveOut'.toNat * x :=
      Nat.add_le_add_right (Nat.mul_le_mul_right _ (Nat.mul_le_mul_right _ net)) _
    _ = x' * reserveOut'.toNat * (reserveIn.toNat * feeBase.toNat + x) := (Nat.mul_add _ _ _).symm

theorem Pays.mono (pays : Pays amount reserveIn reserveOut fee) (more : amount ≤ amount')
    (kept : reserveIn' = 0 → reserveIn = 0) (deeper : reserveOut ≤ reserveOut') (lower : fee' ≤ fee)
    (fits : swapDividend amount' reserveOut' fee' < 2 ^ 256 ∧
      swapDivisor amount' reserveIn' fee' < 2 ^ 256) :
    Pays amount' reserveIn' reserveOut' fee' := by
  refine ⟨?_, mt kept pays.liquid, ?_, UInt32.lt_of_le_of_lt lower pays.below, fits.1, fits.2⟩
  · exact toNat_pos_iff.mp ((toNat_pos_iff.mpr pays.given).trans_le more)
  · exact toNat_pos_iff.mp ((toNat_pos_iff.mpr pays.stocked).trans_le deeper)

theorem toNat_swapOutput_mono (more : amount ≤ amount') (shallower : reserveIn' ≤ reserveIn)
    (kept : reserveIn' = 0 → reserveIn = 0) (deeper : reserveOut ≤ reserveOut') (lower : fee' ≤ fee)
    (fits : swapDividend amount' reserveOut' fee' < 2 ^ 256 ∧
      swapDivisor amount' reserveIn' fee' < 2 ^ 256) :
    (swapOutput amount reserveIn reserveOut fee).toNat ≤
      (swapOutput amount' reserveIn' reserveOut' fee').toNat := by
  rw [toNat_swapOutput amount]
  split_ifs with pays
  · have pays' := pays.mono more kept deeper lower fits
    rw [toNat_swapOutput, if_pos pays']
    exact div_le_div_of_across (swapDivisor_pos pays.liquid) (swapDivisor_pos pays'.liquid)
      (swapTerms_across more shallower deeper lower)
  · exact Nat.zero_le _

end TwoSwaps

/-- For all words: a swap pays the floor of a quotient, which exists wherever its terms fit, and
leaves the pool some of its reserve and all of its product. Below `2 ^ 112` the terms fit, and
the amounts that are paid are in the order of what is paid for them. -/
theorem swapOutput_floor_keeps_product (amount reserveIn reserveOut : Word) (fee : UInt32) :
    (swapOutput amount reserveIn reserveOut fee).toNat =
        (if Pays amount reserveIn reserveOut fee then
          swapDividend amount reserveOut fee / swapDivisor amount reserveIn fee
        else 0) ∧
      (reserveIn ≠ 0 → fee < feeBase → 0 < swapDivisor amount reserveIn fee ∧
        (swapOutput? amount reserveIn reserveOut fee = none ↔
          2 ^ 256 ≤ swapDividend amount reserveOut fee ∨
            2 ^ 256 ≤ swapDivisor amount reserveIn fee)) ∧
      (0 < reserveOut.toNat →
        (swapOutput amount reserveIn reserveOut fee).toNat < reserveOut.toNat) ∧
      reserveIn.toNat * reserveOut.toNat ≤ (reserveIn.toNat + amount.toNat) *
        (reserveOut.toNat - (swapOutput amount reserveIn reserveOut fee).toNat) ∧
      (amount.toNat < 2 ^ 112 → reserveIn.toNat < 2 ^ 112 → reserveOut.toNat < 2 ^ 112 →
        swapDividend amount reserveOut fee < 2 ^ 256 ∧
          swapDivisor amount reserveIn fee < 2 ^ 256 ∧
          ∀ (amount' reserveIn' reserveOut' : Word) (fee' : UInt32),
            amount ≤ amount' → reserveIn' ≤ reserveIn → reserveOut ≤ reserveOut' → fee' ≤ fee →
            amount'.toNat < 2 ^ 112 → reserveOut'.toNat < 2 ^ 112 →
            (reserveIn' = 0 → reserveIn = 0) →
            (swapOutput amount reserveIn reserveOut fee).toNat ≤
              (swapOutput amount' reserveIn' reserveOut' fee').toNat) := by
  refine ⟨toNat_swapOutput amount reserveIn reserveOut fee, ?_, toNat_swapOutput_lt,
    product_le_of_swap, ?_⟩
  · exact fun liquid below => ⟨swapDivisor_pos liquid, swapOutput?_eq_none_iff below liquid⟩
  · intro amountSmall inSmall outSmall
    obtain ⟨dividendFits, divisorFits⟩ := swapTerms_lt fee amountSmall inSmall outSmall
    refine ⟨dividendFits, divisorFits, ?_⟩
    intro amount' reserveIn' reserveOut' fee' more shallower deeper lower amountSmall' outSmall'
      kept
    have inSmall' : reserveIn'.toNat < 2 ^ 112 := lt_of_le_of_lt shallower inSmall
    exact toNat_swapOutput_mono more shallower kept deeper lower
      (swapTerms_lt fee' amountSmall' inSmall' outSmall')

/-- A swap at the usual fee, and one of twice as much without a fee. -/
theorem usual_swap_pays_quotient :
    (swapOutput 1000 100000 200000 30).toNat = 1974 ∧
      swapOutput? 1000 100000 200000 30 ≠ none ∧
      (swapOutput 1000 100000 200000 30).toNat < (200000 : Word).toNat ∧
      (swapOutput 1000 100000 200000 30).toNat ≤ (swapOutput 2000 100000 200000 0).toNat := by
  obtain ⟨quotient, divides, kept, _, small⟩ := swapOutput_floor_keeps_product 1000 100000 200000 30
  refine ⟨quotient.trans (by decide), ?_, kept (by decide), ?_⟩
  · obtain ⟨_, missing⟩ := divides (by decide) (by decide)
    exact mt missing.mp (by decide)
  · obtain ⟨_, _, grows⟩ := small (by decide) (by decide) (by decide)
    exact grows 2000 100000 200000 0 (by decide) (by decide) (by decide) (by decide) (by decide)
      (by decide) (by decide)

/-- An empty side pays nothing, and so less than a side of one unit, which pays all but one. -/
theorem empty_side_pays_less :
    (0 : Word) ≤ 1 ∧ (1000 : Word).toNat < 2 ^ 112 ∧
      (swapOutput 1000 1 1000 0).toNat = 999 ∧ (swapOutput 1000 0 1000 0).toNat = 0 := by
  decide

end SwapLoops
