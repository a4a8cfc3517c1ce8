import SwapLoops.Proofs.Pair.PathOutput
import SwapLoops.Proofs.Sizing.Trials

/-! What is missed by giving up. A search stops at the first trial below its margin, and tries no
smaller amount. An amount below the margin has to be more than doubled to gain it, so nothing is
missed on a path whose spot rates do not double it. On other paths a smaller amount may gain. -/

namespace SwapLoops

theorem exists_rates_of_returnsTo {base : Address} {path : List Pair}
    (returns : ReturnsTo base path) :
    ∃ hops, hopsFrom? path base = some hops ∧ ∀ amount,
      ((pathOutput base amount path).toNat : ℝ) ≤ amount.toNat * (hops.map Hop.rate).prod := by
  obtain ⟨hops, carried, _⟩ := exists_hops_of_returnsTo returns
  refine ⟨hops, carried, fun amount => ?_⟩
  calc ((pathOutput base amount path).toNat : ℝ)
    _ ≤ (Hop.outputAfter amount hops).toNat := Nat.cast_le.mpr (toNat_pathOutput_le carried amount)
    _ ≤ amount.toNat * (hops.map Hop.rate).prod := Hop.toNat_outputAfter_le_rate hops amount

namespace Sizing

section OneAmount

variable {base : Address} {path : List Pair} {margin amount : Word} {rate : ℝ}

theorem lt_mul_rate_of_gains
    (within : ((pathOutput base amount path).toNat : ℝ) ≤ amount.toNat * rate)
    (gains : Gains base path margin amount) :
    (amount.toNat + margin.toNat : ℝ) < amount.toNat * rate := by
  have gain : ((amount.toNat + margin.toNat : Nat) : ℝ) < (pathOutput base amount path).toNat :=
    Nat.cast_lt.mpr gains
  rw [Nat.cast_add] at gain
  exact gain.trans_le within

theorem two_lt_rate_of_gains (below : amount.toNat < margin.toNat)
    (within : ((pathOutput base amount path).toNat : ℝ) ≤ amount.toNat * rate)
    (gains : Gains base path margin amount) : 2 < rate := by
  have small : (amount.toNat : ℝ) ≤ margin.toNat := Nat.cast_le.mpr below.le
  have grown : (amount.toNat : ℝ) * 2 < amount.toNat * rate := by
    linarith only [small, lt_mul_rate_of_gains within gains]
  exact lt_of_mul_lt_mul_left grown (Nat.cast_nonneg _)

end OneAmount

structure GivesUpAt (base : Address) (minReceive : Word) (path : List Pair) (gas : GasQuote)
    (trial : Word) : Prop where
  returns : ReturnsTo base path
  answer : ∃ reserve j, path.head?.bind (·.reserveFor? base) = some reserve ∧
    trialAmount reserve j = trial ∧
    sizeFor base minReceive path gas = .noProfitableSize (j + 1)
  below : trial < margin minReceive path.length gas

section GivenUp

variable {base : Address} {minReceive reserve trial : Word} {path : List Pair} {gas : GasQuote}

theorem GivesUpAt.not_gains (gaveUp : GivesUpAt base minReceive path gas trial) :
    ¬Gains base path (margin minReceive path.length gas) trial := by
  obtain ⟨reserve, j, entry, rfl, answer⟩ := gaveUp.answer
  rw [sizeFor_of_entry gaveUp.returns entry] at answer
  exact not_gains_of_search answer

theorem entry_lt_of_small (small : ∀ p ∈ path, p.Small)
    (entry : path.head?.bind (·.reserveFor? base) = some reserve) : reserve.toNat < 2 ^ 112 := by
  obtain ⟨p, head, paidInto⟩ := Option.bind_eq_some_iff.mp entry
  obtain ⟨side, paid, rfl⟩ := Option.map_eq_some_iff.mp paidInto
  exact ((small p (List.mem_of_mem_head? head)).hop paid).1

theorem GivesUpAt.trial_lt_of_small (gaveUp : GivesUpAt base minReceive path gas trial)
    (small : ∀ p ∈ path, p.Small) : trial.toNat < 2 ^ 112 := by
  obtain ⟨reserve, j, entry, rfl, _⟩ := gaveUp.answer
  calc (trialAmount reserve j).toNat
    _ ≤ reserve.toNat / 10 := toNat_trialAmount_le reserve j
    _ ≤ reserve.toNat := Nat.div_le_self _ _
    _ < 2 ^ 112 := entry_lt_of_small small entry

/-- When a search gives up at a trial below the margin, no amount up to the trial gains the margin
as long as the spot rates of the path do not more than double it. On any path, an amount that does
gain is one of which the rates make more than it and the margin. Where the pools are small, it
comes back as no more than the trial, and so as no more than the trial and the margin. -/
theorem smaller_gain_needs_doubling (gaveUp : GivesUpAt base minReceive path gas trial)
    {amount : Word} (smaller : amount ≤ trial) :
    (∃ hops, hopsFrom? path base = some hops ∧
      ((hops.map Hop.rate).prod ≤ 2 → (pathOutput base amount path).toNat ≤
        amount.toNat + (margin minReceive path.length gas).toNat) ∧
      (Gains base path (margin minReceive path.length gas) amount →
        (amount.toNat + (margin minReceive path.length gas).toNat : ℝ) <
          amount.toNat * (hops.map Hop.rate).prod)) ∧
    ((∀ p ∈ path, p.Small) →
      pathOutput base amount path ≤ pathOutput base trial path ∧
      (pathOutput base trial path).toNat ≤
        trial.toNat + (margin minReceive path.length gas).toNat) := by
  constructor
  · obtain ⟨hops, carried, within⟩ := exists_rates_of_returnsTo gaveUp.returns
    refine ⟨hops, carried, fun slow => not_lt.mp fun gains => ?_, lt_mul_rate_of_gains (within _)⟩
    have below : amount.toNat < (margin minReceive path.length gas).toNat :=
      lt_of_le_of_lt smaller gaveUp.below
    exact slow.not_gt (two_lt_rate_of_gains below (within amount) gains)
  · intro small
    exact ⟨toNat_pathOutput_mono small smaller (gaveUp.trial_lt_of_small small),
      not_lt.mp gaveUp.not_gains⟩

/-- The rates of `doublingPath` gain a tenth. After 19 trials the search for two units gives up,
and one unit would not have gained them either. -/
theorem doublingPath_misses_nothing :
    GivesUpAt 1 2000000000000000000 doublingPath .initial 1801439850948198400 ∧
      (1000000000000000000 : Word) ≤ 1801439850948198400 ∧
      (pathOutput 1 1000000000000000000 doublingPath).toNat ≤
        (1000000000000000000 : Word).toNat + (margin 2000000000000000000 2 .initial).toNat := by
  have gaveUp : GivesUpAt 1 2000000000000000000 doublingPath .initial 1801439850948198400 :=
    ⟨by decide, ⟨doublingReserve, 18, by decide, by decide +kernel, by decide +kernel⟩,
      by decide +kernel⟩
  have smaller : (1000000000000000000 : Word) ≤ 1801439850948198400 := by decide
  obtain ⟨⟨hops, carried, nothing, _⟩, _⟩ := smaller_gain_needs_doubling gaveUp smaller
  have slow : (hops.map Hop.rate).prod < ((2 : Nat) : ℝ) / (1 : Nat) := by
    cases carried
    exact Hop.prod_rate_lt (by decide) (by decide) (by decide)
  rw [Nat.cast_one, div_one] at slow
  exact ⟨gaveUp, smaller, nothing slow.le⟩

def shallowPath : List Pair :=
  [⟨.uniswapV2, 0xa1, 1, 2, 1000000000000000000000, 2000000000000000000000, none, false,
      ⟨⟨1, 0, 0⟩, 0⟩, .none⟩,
    ⟨.uniswapV2, 0xa2, 2, 1, 10000000000000000000, 200000000000000000000, none, false,
      ⟨⟨1, 0, 0⟩, 0⟩, .none⟩]

/-- Two pools around a token that comes in few units. The first four trials all buy one of them. -/
def coarsePath : List Pair :=
  [⟨.uniswapV2, 0xa1, 1, 2, 10000000000000000000000, 21, some 0, false, ⟨⟨1, 0, 0⟩, 0⟩, .none⟩,
    ⟨.uniswapV2, 0xa2, 2, 1, 1000, 1025024000000000000001001, some 0, false,
      ⟨⟨1, 0, 0⟩, 0⟩, .none⟩]

/-- A tenth of the reserve is too much for the shallow pool, and the search for 101 units gives up
at once, while four fifths of that trial gain them. Where units are coarse, rates that make little
more than two of one are enough for an amount below the last trial to gain. -/
theorem smaller_amounts_gain :
    (GivesUpAt 1 101000000000000000000 shallowPath .initial 100000000000000000000 ∧
      (0 : Word) < 80000000000000000000 ∧
      (80000000000000000000 : Word) ≤ 100000000000000000000 ∧
      Gains 1 shallowPath (margin 101000000000000000000 2 .initial) 80000000000000000000) ∧
    (GivesUpAt 1 511999974800000000001 coarsePath .initial 512000000000000000000 ∧
      (0 : Word) < 501000000000000000000 ∧
      (501000000000000000000 : Word) ≤ 512000000000000000000 ∧
      Gains 1 coarsePath (margin 511999974800000000001 2 .initial) 501000000000000000000 ∧
      ∃ hops, hopsFrom? coarsePath 1 = some hops ∧ (hops.map Hop.rate).prod < 11 / 5) := by
  constructor
  · exact ⟨⟨by decide, ⟨doublingReserve, 0, by decide, by decide, by decide +kernel⟩, by decide⟩,
      by decide, by decide, by decide +kernel⟩
  · refine ⟨⟨by decide, ⟨10000000000000000000000, 3, by decide, by decide +kernel,
      by decide +kernel⟩, by decide⟩, by decide, by decide, by decide +kernel, _, rfl, ?_⟩
    exact Hop.prod_rate_lt (n := 11) (d := 5) (by decide) (by decide) (by decide)

end GivenUp

end Sizing

end SwapLoops
