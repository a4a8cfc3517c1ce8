import SwapLoops.Proofs.RateGraph.ExactRates
import SwapLoops.Proofs.Sizing.Outcomes

/-! What sizing can gain on a path is bounded by the spot rates of its pairs. -/

namespace SwapLoops

namespace Hop

noncomputable def rate (h : Hop) : ℝ := exactRate h.side.reserveIn h.side.reserveOut h.fee

theorem rate_nonneg (h : Hop) : 0 ≤ h.rate := by
  unfold rate exactRate
  split_ifs
  · exact le_rfl
  · positivity

theorem reservePaid_eq_zero_iff (h : Hop) : h.reservePaid = 0 ↔ h.side.reserveIn = 0 := by
  rw [reservePaid, mul_eq_zero_iff_right (by decide), ← BitVec.toNat_inj]
  rfl

theorem rate_eq (h : Hop) : h.rate = h.reserveReceived / h.reservePaid := by
  unfold rate exactRate
  split_ifs with empty
  · rcases empty with empty | whole
    · rw [(reservePaid_eq_zero_iff h).mpr empty, Nat.cast_zero, div_zero]
    · rw [reserveReceived, keptParts_eq_zero whole, mul_zero, Nat.cast_zero, zero_div]
  · rw [not_or, UInt32.not_le] at empty
    rw [UInt32.toNat_sub_of_le _ _ (UInt32.le_of_lt empty.2), div_mul_div_comm, reserveReceived,
      reservePaid, keptParts, Nat.cast_mul, Nat.cast_mul]

theorem prod_rate_eq (hops : List Hop) :
    (hops.map rate).prod =
      ((hops.map reserveReceived).prod : ℝ) / (hops.map reservePaid).prod := by
  induction hops with
  | nil => simp
  | cons h hops ih =>
    rw [List.map_cons, List.map_cons, List.map_cons, List.prod_cons, List.prod_cons, List.prod_cons,
      ih, rate_eq, div_mul_div_comm, Nat.cast_mul, Nat.cast_mul]

theorem prod_rate_lt {hops : List Hop} {n d : Nat} (paid : 0 < (hops.map reservePaid).prod)
    (parts : 0 < d)
    (across : (hops.map reserveReceived).prod * d < n * (hops.map reservePaid).prod) :
    (hops.map rate).prod < (n : ℝ) / d := by
  rw [prod_rate_eq, div_lt_div_iff₀ (Nat.cast_pos.mpr paid) (Nat.cast_pos.mpr parts)]
  exact_mod_cast across

theorem toNat_output_mul_le (h : Hop) (amount : Word) :
    (h.output amount).toNat * h.reservePaid ≤ amount.toNat * h.reserveReceived :=
  toNat_swapOutput_mul_le

theorem toNat_output_le_rate (h : Hop) (amount : Word) :
    ((h.output amount).toNat : ℝ) ≤ amount.toNat * h.rate := by
  rw [rate_eq, mul_div_assoc']
  by_cases empty : h.reservePaid = 0
  · rw [output, (reservePaid_eq_zero_iff h).mp empty, swapOutput_of_empty, empty]
    simp
  · rw [le_div_iff₀ (Nat.cast_pos.mpr (Nat.pos_of_ne_zero empty))]
    exact_mod_cast h.toNat_output_mul_le amount

section Products

variable {R : Type} [CommSemiring R] [PartialOrder R] [IsOrderedRing R] {cost gain : Hop → R}

/-- A bound on every hop multiplies up to one on all of them. -/
theorem outputAfter_mul_prod_le (cost_nonneg : ∀ h, 0 ≤ cost h) (gain_nonneg : ∀ h, 0 ≤ gain h)
    (each : ∀ (h : Hop) (amount : Word),
      ((h.output amount).toNat : R) * cost h ≤ amount.toNat * gain h)
    (hops : List Hop) (amount : Word) :
    ((outputAfter amount hops).toNat : R) * (hops.map cost).prod ≤
      amount.toNat * (hops.map gain).prod := by
  induction hops generalizing amount with
  | nil => exact le_rfl
  | cons h hops ih =>
    have rest_nonneg : 0 ≤ (hops.map gain).prod :=
      List.prod_nonneg (List.forall_mem_map.mpr fun h _ => gain_nonneg h)
    rw [List.map_cons, List.map_cons, List.prod_cons, List.prod_cons]
    calc ((outputAfter (h.output amount) hops).toNat : R) * (cost h * (hops.map cost).prod)
      _ = ((outputAfter (h.output amount) hops).toNat * (hops.map cost).prod) * cost h := by ring
      _ ≤ ((h.output amount).toNat * (hops.map gain).prod) * cost h :=
        mul_le_mul_of_nonneg_right (ih _) (cost_nonneg h)
      _ = ((h.output amount).toNat * cost h) * (hops.map gain).prod := by ring
      _ ≤ (amount.toNat * gain h) * (hops.map gain).prod :=
        mul_le_mul_of_nonneg_right (each h amount) rest_nonneg
      _ = amount.toNat * (gain h * (hops.map gain).prod) := mul_assoc ..

end Products

theorem toNat_outputAfter_le_rate (hops : List Hop) (amount : Word) :
    ((outputAfter amount hops).toNat : ℝ) ≤ amount.toNat * (hops.map rate).prod := by
  have bound := outputAfter_mul_prod_le (fun _ => zero_le_one) rate_nonneg
    (fun h amount => (mul_one _).trans_le (h.toNat_output_le_rate amount)) hops amount
  rwa [List.map_const', List.prod_replicate, one_pow, mul_one] at bound

end Hop

/-- Through any path that carries the base, a swap pays no more than the amount at the rates
of all hops. So a path on which a size clears its margin has rates that gain, taken together. -/
theorem pathOutput_within_spot_rates (base : Address) (path : List Pair) :
    (∀ hops, hopsFrom? path base = some hops → ∀ amount,
      (pathOutput base amount path).toNat * (hops.map Hop.reservePaid).prod ≤
        amount.toNat * (hops.map Hop.reserveReceived).prod) ∧
    ∀ minReceive gas size, Sizing.sizeFor base minReceive path gas = .profitable size →
      ∃ hops, hopsFrom? path base = some hops ∧ 1 < (hops.map Hop.rate).prod := by
  constructor
  · intro hops carried amount
    refine (Nat.mul_le_mul_right _ (toNat_pathOutput_le carried amount)).trans ?_
    exact Hop.outputAfter_mul_prod_le (fun _ => Nat.zero_le _) (fun _ => Nat.zero_le _)
      Hop.toNat_output_mul_le hops amount
  · intro minReceive gas size sized
    obtain ⟨returns, clears⟩ := Sizing.clears_of_sizeFor sized
    obtain ⟨hops, carried, _⟩ := exists_hops_of_returnsTo returns
    refine ⟨hops, carried, ?_⟩
    have paid : (size.amountIn.toNat : ℝ) < size.amountOut.toNat :=
      Nat.cast_lt.mpr (Nat.lt_of_le_of_lt (Nat.le_add_right _ _) clears.gain)
    have gain := calc (size.amountIn.toNat : ℝ)
      _ < size.amountOut.toNat := paid
      _ ≤ (Hop.outputAfter size.amountIn hops).toNat := by
        rw [clears.amountOut_eq]
        exact Nat.cast_le.mpr (toNat_pathOutput_le carried size.amountIn)
      _ ≤ size.amountIn.toNat * (hops.map Hop.rate).prod := Hop.toNat_outputAfter_le_rate hops _
    by_contra low
    exact (mul_le_of_le_one_right (Nat.cast_nonneg _) (not_lt.mp low)).not_gt gain

/-- A pool that gives two for one and one that gives five for nine back. -/
def doublingPath : List Pair :=
  [⟨.uniswapV2, 0xa1, 1, 2, 1000000000000000000000, 2000000000000000000000, none, false,
      ⟨⟨1, 0, 0⟩, 0⟩, .none⟩,
    ⟨.uniswapV2, 0xa2, 2, 1, 1800000000000000000000, 1000000000000000000000, none, false,
      ⟨⟨1, 0, 0⟩, 0⟩, .none⟩]

/-- The natural logarithm at the rates of the two pools, about 0.4985, 0.5539, 1.7946 and
1.994. -/
def doublingLog (rate : Float) : Float :=
  if rate < 0.5 then -0.696151689580244
  else if rate < 0.6 then -0.5907911739224178
  else if rate < 1.8 then 0.5847821558818203
  else 0.6901426715396466

/-- The fifth trial clears the margin on the two pools, whose rates gain about a tenth. -/
theorem doublingPath_within_spot_rates :
    ∃ hops, hopsFrom? doublingPath 1 = some hops ∧
      Sizing.sizeFor 1 100000000000000 doublingPath .initial =
        .profitable ⟨40960000000000000000, 41653136416631347549, 125200000000000, 5⟩ ∧
      41653136416631347549 * (hops.map Hop.reservePaid).prod ≤
        40960000000000000000 * (hops.map Hop.reserveReceived).prod ∧
      1 < (hops.map Hop.rate).prod := by
  obtain ⟨bound, gain⟩ := pathOutput_within_spot_rates 1 doublingPath
  have sized : Sizing.sizeFor 1 100000000000000 doublingPath .initial =
      .profitable ⟨40960000000000000000, 41653136416631347549, 125200000000000, 5⟩ := by
    decide +kernel
  have out : pathOutput 1 40960000000000000000 doublingPath = 41653136416631347549 := by
    decide +kernel
  obtain ⟨hops, carried, rates⟩ := gain _ _ _ sized
  have paid := bound hops carried 40960000000000000000
  rw [out] at paid
  exact ⟨hops, carried, sized, paid, rates⟩

end SwapLoops
