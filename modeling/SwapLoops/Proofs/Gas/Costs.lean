import Mathlib
import SwapLoops.Gas

/-! What gas costs a trade. The factor on its least profit grows in steps with the prices on both
chains, up to four, and the gas of its swaps costs far less than a word holds. -/

namespace SwapLoops

section Steps

variable {price price' : GasPrice} {steps : List (GasPrice × Nat)} {bound : Nat}

theorem foldl_max_le_iff {factors : List Nat} {least : Nat} :
    factors.foldl max least ≤ bound ↔ least ≤ bound ∧ ∀ factor ∈ factors, factor ≤ bound := by
  induction factors generalizing least with
  | nil => simp
  | cons factor factors ih =>
    rw [List.foldl_cons, ih, Nat.max_le, List.forall_mem_cons, and_assoc]

theorem stepFactor_le_iff :
    stepFactor price steps ≤ bound ↔ 1 ≤ bound ∧ ∀ s ∈ steps, s.1 < price → s.2 ≤ bound := by
  rw [stepFactor, foldl_max_le_iff, List.forall_mem_map]
  simp only [List.mem_filter, decide_eq_true_eq, and_imp]

theorem stepFactor_mono (dearer : price ≤ price') :
    stepFactor price steps ≤ stepFactor price' steps := by
  obtain ⟨least, above⟩ := stepFactor_le_iff.mp (le_refl (stepFactor price' steps))
  exact stepFactor_le_iff.mpr ⟨least, fun s member below =>
    above s member (Nat.lt_of_lt_of_le below dearer)⟩

end Steps

def GasFits (hops : Nat) : Prop := gasFor hops < UInt64.size

instance (hops : Nat) : Decidable (GasFits hops) := inferInstanceAs (Decidable (_ < _))

namespace GasQuote

variable {gas gas' : GasQuote} {hops : Nat}

theorem marginFactor_le_four (gas : GasQuote) : gas.marginFactor ≤ 4 := by
  apply Nat.max_le.mpr
  constructor
  · exact stepFactor_le_iff.mpr (by simp [hereSteps])
  · exact stepFactor_le_iff.mpr (by simp [referenceSteps])

theorem marginFactor_mono (here : gas.here ≤ gas'.here) (reference : gas.reference ≤ gas'.reference) :
    gas.marginFactor ≤ gas'.marginFactor :=
  max_le_max (stepFactor_mono here) (stepFactor_mono reference)

/-- Gas counted in 64 bits at a price of 128 costs far less than a word holds. -/
theorem cost_lt (fits : GasFits hops) (gas : GasQuote) :
    gasFor hops * gas.here.toNat < 2 ^ 192 := by
  have price := gas.here.isLt
  calc gasFor hops * gas.here.toNat
    _ ≤ gasFor hops * 2 ^ 128 := Nat.mul_le_mul_left _ price.le
    _ < UInt64.size * 2 ^ 128 := Nat.mul_lt_mul_of_pos_right fits (by decide)
    _ = 2 ^ 192 := by decide

theorem toNat_cost (fits : GasFits hops) (gas : GasQuote) :
    (gas.cost hops).toNat = gasFor hops * gas.here.toNat := by
  have small := cost_lt fits gas
  rw [cost, BitVec.toNat_ofNat, Nat.mod_eq_of_lt (by omega)]

end GasQuote

end SwapLoops
