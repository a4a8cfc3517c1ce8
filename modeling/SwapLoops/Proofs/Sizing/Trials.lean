import SwapLoops.Proofs.Pair.SwapOutput
import SwapLoops.Proofs.Sizing.SpotRates

/-! The trials of a search. Their amounts shrink by a fifth without a wrap, so that within 800 of
them nothing is left. The search answers at the first trial that gains its margin or is spent. -/

namespace SwapLoops

def SizeOutcome.trials : SizeOutcome → Nat
  | .profitable size => size.iterations
  | .noProfitableSize iterations => iterations
  | .invalidPath => 0

namespace Sizing

section Amounts

variable {amount reserve : Word}

theorem toNat_firstTrial_le (reserve : Word) : (firstTrial reserve).toNat ≤ reserve.toNat / 10 := by
  have wrapped : (reserve * 10).toNat ≤ reserve.toNat * 10 := by
    rw [BitVec.toNat_mul]
    exact Nat.mod_le _ _
  rw [firstTrial, BitVec.toNat_udiv]
  show (reserve * 10).toNat / 100 ≤ reserve.toNat / 10
  omega

theorem toNat_firstTrial_of_lt (fits : 10 * reserve.toNat < 2 ^ 256) :
    (firstTrial reserve).toNat = reserve.toNat / 10 := by
  have exact : (reserve * 10).toNat = reserve.toNat * 10 :=
    Word.toNat_mul_of_le (le_max_toNat_iff.mpr (by rw [Nat.mul_comm]; exact fits))
  rw [firstTrial, BitVec.toNat_udiv, exact]
  show reserve.toNat * 10 / 100 = reserve.toNat / 10
  omega

theorem toNat_shrink_of_lt (room : 4 * amount.toNat < 2 ^ 256) :
    (shrink amount).toNat = 4 * amount.toNat / 5 := by
  have exact : (amount * 4).toNat = amount.toNat * 4 :=
    Word.toNat_mul_of_le (le_max_toNat_iff.mpr (by rw [Nat.mul_comm]; exact room))
  rw [shrink, BitVec.toNat_udiv, exact, Nat.mul_comm]
  rfl

def trialAmount (reserve : Word) (k : Nat) : Word := shrink^[k] (firstTrial reserve)

theorem trialAmount_succ (reserve : Word) (k : Nat) :
    trialAmount reserve (k + 1) = shrink (trialAmount reserve k) :=
  Function.iterate_succ_apply' shrink k _

theorem toNat_shrink_le (amount : Word) : (shrink amount).toNat ≤ amount.toNat := by
  by_cases none : amount = 0
  · rw [none]
    exact Nat.zero_le _
  · exact (toNat_shrink_lt none).le

theorem toNat_trialAmount_le (reserve : Word) (k : Nat) :
    (trialAmount reserve k).toNat ≤ reserve.toNat / 10 := by
  induction k with
  | zero => exact toNat_firstTrial_le reserve
  | succ k ih =>
    rw [trialAmount_succ]
    exact (toNat_shrink_le _).trans ih

theorem four_mul_trialAmount_lt (reserve : Word) (k : Nat) :
    4 * (trialAmount reserve k).toNat < 2 ^ 256 := by
  have tenth := toNat_trialAmount_le reserve k
  have bound := reserve.isLt
  omega

theorem toNat_trialAmount_succ (reserve : Word) (k : Nat) :
    (trialAmount reserve (k + 1)).toNat = 4 * (trialAmount reserve k).toNat / 5 := by
  rw [trialAmount_succ, toNat_shrink_of_lt (four_mul_trialAmount_lt reserve k)]

theorem trialAmount_mul_pow_le (reserve : Word) (k : Nat) :
    (trialAmount reserve k).toNat * 5 ^ k ≤ (firstTrial reserve).toNat * 4 ^ k := by
  induction k with
  | zero => exact le_rfl
  | succ k ih =>
    have fifth : (trialAmount reserve (k + 1)).toNat * 5 ≤ (trialAmount reserve k).toNat * 4 := by
      rw [toNat_trialAmount_succ, Nat.mul_comm _ 4]
      exact Nat.div_mul_le_self _ _
    calc (trialAmount reserve (k + 1)).toNat * 5 ^ (k + 1)
      _ = (trialAmount reserve (k + 1)).toNat * 5 * 5 ^ k := by rw [pow_succ', Nat.mul_assoc]
      _ ≤ (trialAmount reserve k).toNat * 4 * 5 ^ k := Nat.mul_le_mul_right _ fifth
      _ = (trialAmount reserve k).toNat * 5 ^ k * 4 := Nat.mul_right_comm _ _ _
      _ ≤ (firstTrial reserve).toNat * 4 ^ k * 4 := Nat.mul_le_mul_right _ ih
      _ = (firstTrial reserve).toNat * 4 ^ (k + 1) := by rw [pow_succ, Nat.mul_assoc]

/-- Shrunk 799 times, no word has a unit left. -/
theorem trialAmount_last (reserve : Word) : trialAmount reserve 799 = 0 := by
  have shrunk := trialAmount_mul_pow_le reserve 799
  have start : (firstTrial reserve).toNat * 4 ^ 799 < 1 * 5 ^ 799 :=
    lt_of_le_of_lt (Nat.mul_le_mul_right _ (firstTrial reserve).isLt.le) (by decide +kernel)
  have none : (trialAmount reserve 799).toNat < 1 :=
    Nat.lt_of_mul_lt_mul_right (shrunk.trans_lt start)
  exact BitVec.eq_of_toNat_eq (Nat.lt_one_iff.mp none)

end Amounts

section Search

variable (base : Address) (path : List Pair) (margin : Word)

def Gains (amount : Word) : Prop :=
  amount.toNat + margin.toNat < (pathOutput base amount path).toNat

def Spent (amount : Word) : Prop := amount < margin ∨ amount = 0

instance : DecidablePred (Gains base path margin) := fun _ => inferInstanceAs (Decidable (_ < _))

instance : DecidablePred (Spent margin) := fun _ => inferInstanceAs (Decidable (_ ∨ _))

def GoesOn (amount : Word) : Prop := ¬Gains base path margin amount ∧ ¬Spent margin amount

variable {base path margin} {amount reserve : Word} {trial : Nat}

theorem search_of_gains (gains : Gains base path margin amount) :
    search base path margin amount trial =
      .profitable ⟨amount, pathOutput base amount path, margin, trial⟩ := by
  unfold search
  rw [if_pos (satAdd_lt_iff.mpr gains)]

theorem search_of_spent (short : ¬Gains base path margin amount) (spent : Spent margin amount) :
    search base path margin amount trial = .noProfitableSize trial := by
  unfold search
  rw [if_neg (mt satAdd_lt_iff.mp short)]
  exact dif_pos spent

theorem search_of_goesOn (goesOn : GoesOn base path margin amount) :
    search base path margin amount trial =
      search base path margin (shrink amount) (trial + 1) := by
  rw [search.eq_def base path margin amount, if_neg (mt satAdd_lt_iff.mp goesOn.1)]
  exact dif_neg goesOn.2

theorem search_at_trial {k : Nat}
    (before : ∀ j < k, GoesOn base path margin (trialAmount reserve j)) :
    search base path margin (firstTrial reserve) 1 =
      search base path margin (trialAmount reserve k) (k + 1) := by
  induction k with
  | zero => rfl
  | succ k ih =>
    rw [ih fun j less => before j (Nat.lt_succ_of_lt less),
      search_of_goesOn (before k (Nat.lt_succ_self k)), trialAmount_succ]

theorem exists_first_settled (base : Address) (path : List Pair) (margin reserve : Word) :
    ∃ k ≤ 799, (∀ j < k, GoesOn base path margin (trialAmount reserve j)) ∧
      (Gains base path margin (trialAmount reserve k) ∨ Spent margin (trialAmount reserve k)) := by
  have settled : ∃ k, Gains base path margin (trialAmount reserve k) ∨
      Spent margin (trialAmount reserve k) :=
    ⟨799, Or.inr (Or.inr (trialAmount_last reserve))⟩
  refine ⟨Nat.find settled, ?_, ?_, Nat.find_spec settled⟩
  · exact Nat.find_min' settled (Or.inr (Or.inr (trialAmount_last reserve)))
  · exact fun j less => not_or.mp (Nat.find_min settled less)

theorem search_of_first_gain {k : Nat}
    (first : IsLeast {i | Gains base path margin (trialAmount reserve i)} k)
    (unspent : ∀ j < k, ¬Spent margin (trialAmount reserve j)) :
    search base path margin (firstTrial reserve) 1 =
      .profitable ⟨trialAmount reserve k, pathOutput base (trialAmount reserve k) path, margin,
        k + 1⟩ := by
  rw [search_at_trial fun j less => ⟨fun gains => (first.2 gains).not_gt less, unspent j less⟩]
  exact search_of_gains first.1

theorem exists_first_spent
    (gainless : ¬∃ k, IsLeast {i | Gains base path margin (trialAmount reserve i)} k ∧
      ∀ j < k, ¬Spent margin (trialAmount reserve j)) :
    ∃ j, IsLeast {i | Spent margin (trialAmount reserve i)} j ∧
      search base path margin (firstTrial reserve) 1 = .noProfitableSize (j + 1) := by
  obtain ⟨k, _, before, settled⟩ := exists_first_settled base path margin reserve
  have short : ¬Gains base path margin (trialAmount reserve k) := by
    intro gains
    refine gainless ⟨k, ⟨gains, fun i earlier => ?_⟩, fun j less => (before j less).2⟩
    exact not_lt.mp fun less => (before i less).1 earlier
  have spent := settled.resolve_left short
  refine ⟨k, ⟨spent, fun i earlier => not_lt.mp fun less => (before i less).2 earlier⟩, ?_⟩
  rw [search_at_trial before, search_of_spent short spent]

theorem not_gains_of_search {j : Nat}
    (gaveUp : search base path margin (firstTrial reserve) 1 = .noProfitableSize (j + 1)) :
    ¬Gains base path margin (trialAmount reserve j) := by
  obtain ⟨k, _, before, settled⟩ := exists_first_settled base path margin reserve
  rw [search_at_trial before] at gaveUp
  by_cases gains : Gains base path margin (trialAmount reserve k)
  · rw [search_of_gains gains] at gaveUp
    cases gaveUp
  · rw [search_of_spent gains (settled.resolve_left gains)] at gaveUp
    cases gaveUp
    exact gains

theorem trials_search_le (base : Address) (path : List Pair) (margin reserve : Word) :
    (search base path margin (firstTrial reserve) 1).trials ≤ 800 := by
  obtain ⟨k, last, before, settled⟩ := exists_first_settled base path margin reserve
  rw [search_at_trial before]
  by_cases gains : Gains base path margin (trialAmount reserve k)
  · rw [search_of_gains gains]
    exact Nat.succ_le_succ last
  · rw [search_of_spent gains (settled.resolve_left gains)]
    exact Nat.succ_le_succ last

end Search

section SizeFor

variable {base : Address} {minReceive reserve : Word} {path : List Pair} {gas : GasQuote}

theorem sizeFor_of_entry (returns : ReturnsTo base path)
    (entry : path.head?.bind (·.reserveFor? base) = some reserve) :
    sizeFor base minReceive path gas =
      search base path (margin minReceive path.length gas) (firstTrial reserve) 1 := by
  unfold sizeFor
  rw [if_pos returns, entry]

/-- On every path back to the base: the trials begin at a tenth of the reserve or below and shrink
to four fifths without a wrap; there are at most 800 of them, far fewer than 32 bits can count;
and the answer is the first trial that gains, if none before it is spent, and else that the first
spent trial ended the search. -/
theorem sizeFor_answers_first_settled (minReceive : Word) (gas : GasQuote)
    (returns : ReturnsTo base path)
    (entry : path.head?.bind (·.reserveFor? base) = some reserve) :
    (trialAmount reserve 0).toNat ≤ reserve.toNat / 10 ∧
      (10 * reserve.toNat < 2 ^ 256 → (trialAmount reserve 0).toNat = reserve.toNat / 10) ∧
      (∀ k, 4 * (trialAmount reserve k).toNat < 2 ^ 256 ∧
        (trialAmount reserve (k + 1)).toNat = 4 * (trialAmount reserve k).toNat / 5) ∧
      (sizeFor base minReceive path gas).trials ≤ 800 ∧
      (sizeFor base minReceive path gas).trials < UInt32.size ∧
      (∀ k, IsLeast {i | Gains base path (margin minReceive path.length gas)
          (trialAmount reserve i)} k →
        (∀ j < k, ¬Spent (margin minReceive path.length gas) (trialAmount reserve j)) →
        sizeFor base minReceive path gas =
          .profitable ⟨trialAmount reserve k, pathOutput base (trialAmount reserve k) path,
            margin minReceive path.length gas, k + 1⟩) ∧
      ((¬∃ k, IsLeast {i | Gains base path (margin minReceive path.length gas)
          (trialAmount reserve i)} k ∧
          ∀ j < k, ¬Spent (margin minReceive path.length gas) (trialAmount reserve j)) →
        ∃ j, IsLeast {i | Spent (margin minReceive path.length gas) (trialAmount reserve i)} j ∧
          sizeFor base minReceive path gas = .noProfitableSize (j + 1)) := by
  rw [sizeFor_of_entry returns entry]
  have few := trials_search_le base path (margin minReceive path.length gas) reserve
  exact ⟨toNat_firstTrial_le reserve, toNat_firstTrial_of_lt,
    fun k => ⟨four_mul_trialAmount_lt reserve k, toNat_trialAmount_succ reserve k⟩, few,
    few.trans_lt (by decide), fun k => search_of_first_gain, exists_first_spent⟩

def doublingReserve : Word := 1000000000000000000000

/-- A margin of a ten thousandth is gained at the fifth trial. One of two units is never gained,
and after 19 trials less than that is left. -/
theorem doublingPath_settles :
    ReturnsTo 1 doublingPath ∧
      doublingPath.head?.bind (·.reserveFor? 1) = some doublingReserve ∧
      (trialAmount doublingReserve 0).toNat = doublingReserve.toNat / 10 ∧
      sizeFor 1 100000000000000 doublingPath .initial =
        .profitable ⟨trialAmount doublingReserve 4,
          pathOutput 1 (trialAmount doublingReserve 4) doublingPath,
          margin 100000000000000 2 .initial, 5⟩ ∧
      sizeFor 1 2000000000000000000 doublingPath .initial = .noProfitableSize 19 := by
  have returns : ReturnsTo 1 doublingPath := by decide
  have entry : doublingPath.head?.bind (·.reserveFor? 1) = some doublingReserve := by decide
  obtain ⟨_, tenth, _, _, _, gaining, _⟩ := sizeFor_answers_first_settled
    100000000000000 .initial returns entry
  obtain ⟨_, _, _, _, _, _, spending⟩ := sizeFor_answers_first_settled
    2000000000000000000 .initial returns entry
  refine ⟨returns, entry, tenth (by decide), gaining 4 ⟨?_, ?_⟩ ?_, ?_⟩
  · show Gains 1 doublingPath _ _
    decide +kernel
  · have earlier : ∀ i < 4, ¬Gains 1 doublingPath (margin 100000000000000 2 .initial)
        (trialAmount doublingReserve i) := by decide +kernel
    exact fun i gains => not_lt.mp fun less => earlier i less gains
  · decide +kernel
  · have short : ∀ i < 19, ¬Gains 1 doublingPath (margin 2000000000000000000 2 .initial)
        (trialAmount doublingReserve i) := by decide +kernel
    have spent : Spent (margin 2000000000000000000 2 .initial)
        (trialAmount doublingReserve 18) := by decide +kernel
    have unspent : ∀ i < 18, ¬Spent (margin 2000000000000000000 2 .initial)
        (trialAmount doublingReserve i) := by decide +kernel
    obtain ⟨j, least, gaveUp⟩ := spending <| by
      rintro ⟨k, first, before⟩
      exact before 18 (not_le.mp fun late => short k (Nat.lt_succ_of_le late) first.1) spent
    have last : j = 18 :=
      le_antisymm (least.2 spent) (not_lt.mp fun less => unspent j less least.1)
    rwa [last] at gaveUp

end SizeFor

end Sizing

end SwapLoops
