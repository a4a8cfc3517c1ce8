import SwapLoops.Gas
import SwapLoops.Pair.Swap

/-! How much to trade through a loop. The first trial is a tenth of the reserve
it enters; each failed trial shrinks by a fifth, until the trade clears its
margin or the trial falls below it. -/

namespace SwapLoops

structure SizedTrade where
  amountIn : Word
  amountOut : Word
  margin : Word
  iterations : Nat
deriving DecidableEq, Repr

def SizedTrade.profit (s : SizedTrade) : Word := s.amountOut.satSub s.amountIn

inductive SizeOutcome
  | profitable (size : SizedTrade)
  | noProfitableSize (iterations : Nat)
  | invalidPath
deriving DecidableEq, Repr

namespace Sizing

def margin (minReceive : Word) (hops : Nat) (gas : GasQuote) : Word :=
  (minReceive.satMul (BitVec.ofNat 256 gas.marginFactor)).satAdd (gas.cost hops)

def firstTrial (reserve : Word) : Word := reserve * 10 / 100

def shrink (amount : Word) : Word := amount * 4 / 5

theorem toNat_shrink_lt {amount : Word} (h : amount ≠ 0) :
    (shrink amount).toNat < amount.toNat := by
  have hpos : 0 < amount.toNat := by
    rcases Nat.eq_zero_or_pos amount.toNat with hz | hz
    · exact absurd (BitVec.eq_of_toNat_eq hz) h
    · exact hz
  have hle : (amount * 4).toNat ≤ amount.toNat * 4 := by
    rw [BitVec.toNat_mul]
    exact Nat.mod_le _ _
  rw [shrink, BitVec.toNat_udiv]
  show (amount * 4).toNat / 5 < amount.toNat
  omega

/-- Trials from an amount on, where `trial` counts them from one. -/
def search (base : Address) (path : List Pair) (margin : Word) (amount : Word) (trial : Nat) :
    SizeOutcome :=
  let out := pathOutput base amount path
  if amount.satAdd margin < out then .profitable ⟨amount, out, margin, trial⟩
  else if h : amount < margin ∨ amount = 0 then .noProfitableSize trial
  else search base path margin (shrink amount) (trial + 1)
termination_by amount.toNat
decreasing_by exact toNat_shrink_lt fun hz => h (Or.inr hz)

def sizeFor (base : Address) (minReceive : Word) (path : List Pair) (gas : GasQuote) :
    SizeOutcome :=
  if ReturnsTo base path then
    match path.head?.bind (·.reserveFor? base) with
    | some reserve => search base path (margin minReceive path.length gas) (firstTrial reserve) 1
    | none => .invalidPath
  else .invalidPath

end Sizing

end SwapLoops
