import SwapLoops.Proofs.Gas.Costs
import SwapLoops.Proofs.Sizing.Trials

/-! What a trade has to gain, and what becomes of its size when it costs less. A smaller margin is
gained at least as early, and it is spent at least as late, so the search for it answers in no more
trials and with no smaller amount. -/

namespace SwapLoops.Sizing

section Margins

variable {minReceive minReceive' : Word} {hops : Nat} {gas gas' : GasQuote}

/-- The factor is far from wrapping. So the margin is the least profit times the factor and the gas
on top, cut off at the greatest word. -/
theorem toNat_margin (fits : GasFits hops) (minReceive : Word) (gas : GasQuote) :
    (margin minReceive hops gas).toNat =
      min (minReceive.toNat * gas.marginFactor + gasFor hops * gas.here.toNat) Word.max.toNat := by
  have low := gas.marginFactor_le_four
  have factor : (BitVec.ofNat 256 gas.marginFactor).toNat = gas.marginFactor := by
    rw [BitVec.toNat_ofNat, Nat.mod_eq_of_lt (by omega)]
  rw [margin, Word.toNat_satAdd, Word.toNat_satMul, factor, GasQuote.toNat_cost fits]
  omega

theorem margin_mono (less : minReceive ≤ minReceive') (here : gas.here ≤ gas'.here)
    (reference : gas.reference ≤ gas'.reference) (fits : GasFits hops) :
    margin minReceive hops gas ≤ margin minReceive' hops gas' := by
  rw [BitVec.le_def, toNat_margin fits, toNat_margin fits]
  have profit : minReceive.toNat * gas.marginFactor ≤ minReceive'.toNat * gas'.marginFactor :=
    Nat.mul_le_mul less (GasQuote.marginFactor_mono here reference)
  have cost : gasFor hops * gas.here.toNat ≤ gasFor hops * gas'.here.toNat :=
    Nat.mul_le_mul_left _ here
  exact min_le_min_right _ (Nat.add_le_add profit cost)

end Margins

section Search

variable {base : Address} {path : List Pair} {margin margin' amount : Word} {trial : Nat}
  {size : SizedTrade}

theorem Gains.anti (smaller : margin' ≤ margin) (gains : Gains base path margin amount) :
    Gains base path margin' amount :=
  lt_of_le_of_lt (Nat.add_le_add_left smaller _) gains

theorem Spent.mono (smaller : margin' ≤ margin) (spent : Spent margin' amount) :
    Spent margin amount :=
  spent.imp_left fun below => Nat.lt_of_lt_of_le below smaller

theorem bounds_of_search (found : search base path margin amount trial = .profitable size) :
    size.amountIn ≤ amount ∧ trial ≤ size.iterations := by
  fun_induction search base path margin amount trial with
  | case1 amount trial out profit =>
    cases found
    exact ⟨BitVec.le_refl _, le_rfl⟩
  | case2 => cases found
  | case3 amount trial out short more ih =>
    obtain ⟨smaller, later⟩ := ih found
    exact ⟨Nat.le_trans smaller (toNat_shrink_le amount), Nat.le_of_succ_le later⟩

/-- By induction on the trials of the greater margin. As long as they go on, those of the smaller
margin are not spent: either they gain, and what the others find lies ahead, or they go on too. -/
theorem search_of_smaller_margin (smaller : margin' ≤ margin)
    (found : search base path margin amount trial = .profitable size) :
    ∃ size', search base path margin' amount trial = .profitable size' ∧
      size.amountIn ≤ size'.amountIn ∧ size'.iterations ≤ size.iterations := by
  fun_induction search base path margin amount trial with
  | case1 amount trial out profit =>
    cases found
    have gains : Gains base path margin amount := satAdd_lt_iff.mp profit
    exact ⟨_, search_of_gains (gains.anti smaller), BitVec.le_refl _, le_rfl⟩
  | case2 => cases found
  | case3 amount trial out short more ih =>
    by_cases gains : Gains base path margin' amount
    · obtain ⟨ahead, later⟩ := bounds_of_search found
      refine ⟨_, search_of_gains gains, ?_, Nat.le_of_succ_le later⟩
      exact Nat.le_trans ahead (toNat_shrink_le amount)
    · rw [search_of_goesOn ⟨gains, mt (Spent.mono smaller) more⟩]
      exact ih found

end Search

/-- Where less profit is asked for and gas is cheaper on both chains, the margin of a loop is no
greater, and every path that could be sized still can: with no smaller amount, after no more
trials. -/
theorem sizeFor_of_cheaper {minReceive minReceive' : Word} {gas gas' : GasQuote}
    (less : minReceive ≤ minReceive') (here : gas.here ≤ gas'.here)
    (reference : gas.reference ≤ gas'.reference) :
    (∀ hops, GasFits hops → margin minReceive hops gas ≤ margin minReceive' hops gas') ∧
    ∀ base path size', GasFits path.length →
      sizeFor base minReceive' path gas' = .profitable size' →
        ∃ size, sizeFor base minReceive path gas = .profitable size ∧
          size'.amountIn ≤ size.amountIn ∧ size.iterations ≤ size'.iterations := by
  refine ⟨fun hops => margin_mono less here reference, fun base path size' fits sized => ?_⟩
  have returns := (clears_of_sizeFor sized).1
  obtain ⟨reserve, entry⟩ := exists_entry_of_returnsTo returns
  rw [sizeFor_of_entry returns entry] at sized ⊢
  exact search_of_smaller_margin (margin_mono less here reference fits) sized

/-- On dear gas the two pools of `doublingPath` are sized at the seventh trial, so at usual gas and
for a smaller profit they are sized too. -/
theorem doublingPath_sized_on_dear_gas :
    (100000000000000 : Word) ≤ 300000000000000000 ∧ GasFits doublingPath.length ∧
      (margin 100000000000000 2 .initial) ≤ margin 300000000000000000 2 ⟨6000000000, 200000000000⟩ ∧
      ∃ size' size,
        sizeFor 1 300000000000000000 doublingPath ⟨6000000000, 200000000000⟩ = .profitable size' ∧
        size'.amountIn = 26214400000000000000 ∧ size'.iterations = 7 ∧
        sizeFor 1 100000000000000 doublingPath .initial = .profitable size ∧
        size'.amountIn ≤ size.amountIn ∧ size.iterations ≤ 7 := by
  have less : (100000000000000 : Word) ≤ 300000000000000000 := by decide
  have fits : GasFits doublingPath.length := by decide
  have here : GasQuote.initial.here ≤ (⟨6000000000, 200000000000⟩ : GasQuote).here := by decide
  obtain ⟨margins, sizes⟩ := sizeFor_of_cheaper less here (by decide)
  have dear : sizeFor 1 300000000000000000 doublingPath ⟨6000000000, 200000000000⟩ =
      .profitable ⟨26214400000000000000, 27440934317291326896, 1201260000000000000, 7⟩ := by
    decide +kernel
  obtain ⟨size, sized, amount, trials⟩ := sizes 1 doublingPath _ fits dear
  exact ⟨less, fits, margins 2 (by decide), _, size, dear, rfl, rfl, sized, amount, trials⟩

end SwapLoops.Sizing
