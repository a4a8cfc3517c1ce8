import SwapLoops.Proofs.Sizing.Margins
import SwapLoops.Trade

/-! The check before a trade beside the sizing that came before it. Sizing asks for a sum above the
margin, and the check for a share of the gas fee. Where the least profit, as it is scaled, covers a
fifth of the fee, what was sized passes the check. -/

namespace SwapLoops

variable {base : Address} {path : List Pair} {gas : GasQuote} {hops : Nat} {amount out : Word}

/-- The fee is so far below the greatest word that only a profit can be cut off there, and one that
is cut off is above any fee. -/
theorem falls_short_iff (fits : GasFits hops) (gas : GasQuote) (profit : Word) :
    profit.satMul 100 < (gas.cost hops).satMul feeMultiplePercent ↔
      100 * profit.toNat < 120 * (gasFor hops * gas.here.toNat) := by
  have small := GasQuote.cost_lt fits gas
  have greatest : Word.max.toNat = 2 ^ 256 - 1 := BitVec.toNat_allOnes
  rw [BitVec.lt_def, Word.toNat_satMul, Word.toNat_satMul, GasQuote.toNat_cost fits, greatest]
  show min (profit.toNat * 100) _ < min (gasFor hops * gas.here.toNat * 120) _ ↔ _
  omega

theorem recheck_eq_ok_iff (fits : GasFits path.length) :
    recheck base amount path gas = .ok out ↔
      out = pathOutput base amount path ∧ out ≠ 0 ∧
        120 * (gasFor path.length * gas.here.toNat) ≤ 100 * (out.toNat - amount.toNat) := by
  simp only [recheck, falls_short_iff fits, Word.toNat_satSub]
  split_ifs with nothing short
  · refine iff_of_false (fun passed => by cases passed) ?_
    rintro ⟨rfl, something, _⟩
    exact something nothing
  · refine iff_of_false (fun passed => by cases passed) ?_
    rintro ⟨rfl, _, enough⟩
    omega
  · rw [Except.ok.injEq, eq_comm]
    refine (and_iff_left_of_imp ?_).symm
    rintro rfl
    exact ⟨nothing, not_lt.mp short⟩

theorem recheck_eq_invalidPath_iff :
    recheck base amount path gas = .error .invalidPath ↔ pathOutput base amount path = 0 := by
  simp only [recheck]
  split_ifs with nothing short
  · exact iff_of_true rfl nothing
  · exact iff_of_false (fun refused => by cases refused) nothing
  · exact iff_of_false (fun refused => by cases refused) nothing

namespace Sizing

variable {minReceive : Word} {size : SizedTrade}

/-- A margin that was gained was not cut off at the greatest word, so it holds the least profit and
the gas in full. -/
theorem profit_of_clears (fits : GasFits path.length)
    (clears : Clears base path (margin minReceive path.length gas) size) :
    size.amountIn.toNat + minReceive.toNat * gas.marginFactor + gasFor path.length * gas.here.toNat <
      size.amountOut.toNat := by
  have gain := clears.gain
  have bound := Word.le_max size.amountOut
  rw [toNat_margin fits] at gain
  omega

/-- The check passes exactly when something comes back and the profit is at least 1.2 times the
fee, counted without an end to the words. A size that was found passes it if five times the scaled
least profit is at least the fee. -/
theorem recheck_agrees (fits : GasFits path.length) :
    (∀ amount out, recheck base amount path gas = .ok out ↔
      out = pathOutput base amount path ∧ out ≠ 0 ∧
        120 * (gasFor path.length * gas.here.toNat) ≤ 100 * (out.toNat - amount.toNat)) ∧
    ∀ minReceive size, sizeFor base minReceive path gas = .profitable size →
      gasFor path.length * gas.here.toNat ≤ 5 * minReceive.toNat * gas.marginFactor →
        recheck base size.amountIn path gas = .ok size.amountOut := by
  refine ⟨fun amount out => recheck_eq_ok_iff fits, fun minReceive size sized covered => ?_⟩
  obtain ⟨_, clears⟩ := clears_of_sizeFor sized
  have profit := profit_of_clears fits clears
  rw [Nat.mul_assoc] at covered
  refine (recheck_eq_ok_iff fits).mpr ⟨clears.amountOut_eq, ?_, by omega⟩
  exact toNat_pos_iff.mp (by omega)

/-- The size that `doublingPath` has at usual gas passes the check. At gas 27500 times as dear it is
still found, as long as no least profit is asked for, but what it gains is not 1.2 times the fee. -/
theorem doublingPath_passes_check :
    GasFits doublingPath.length ∧
      sizeFor 1 100000000000000 doublingPath .initial =
        .profitable ⟨40960000000000000000, 41653136416631347549, 125200000000000, 5⟩ ∧
      recheck 1 40960000000000000000 doublingPath .initial = .ok 41653136416631347549 ∧
      sizeFor 1 0 doublingPath ⟨3300000000000, 1⟩ =
        .profitable ⟨40960000000000000000, 41653136416631347549, 693000000000000000, 5⟩ ∧
      recheck 1 40960000000000000000 doublingPath ⟨3300000000000, 1⟩ ≠
        .ok 41653136416631347549 := by
  have fits : GasFits doublingPath.length := by decide
  have usual : sizeFor 1 100000000000000 doublingPath .initial =
      .profitable ⟨40960000000000000000, 41653136416631347549, 125200000000000, 5⟩ := by
    decide +kernel
  have dear : sizeFor 1 0 doublingPath ⟨3300000000000, 1⟩ =
      .profitable ⟨40960000000000000000, 41653136416631347549, 693000000000000000, 5⟩ := by
    decide +kernel
  refine ⟨fits, usual, (recheck_agrees fits).2 _ _ usual (by decide), dear, fun passed => ?_⟩
  obtain ⟨_, _, enough⟩ := ((recheck_agrees fits).1 _ _).mp passed
  revert enough
  decide

end Sizing

end SwapLoops
