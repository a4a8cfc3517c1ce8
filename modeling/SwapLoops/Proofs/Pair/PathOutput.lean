import SwapLoops.Proofs.Pair.SwapOutput

/-! What a path of pools of a realistic size pays. A swap pays less than such a pool holds, so the
amounts of a run stay as small as the reserves and nothing overflows on the way. The run is then
the composition of the exact quotients, and pays more for more. -/

namespace SwapLoops

def Pair.Small (p : Pair) : Prop := p.reserve0.toNat < 2 ^ 112 ∧ p.reserve1.toNat < 2 ^ 112

instance (p : Pair) : Decidable p.Small := inferInstanceAs (Decidable (_ ∧ _))

namespace Hop

def Small (h : Hop) : Prop :=
  h.side.reserveIn.toNat < 2 ^ 112 ∧ h.side.reserveOut.toNat < 2 ^ 112

def quotient (h : Hop) (amount : Nat) : Nat :=
  if h.side.reserveIn = 0 then 0
  else amount * keptParts h.fee * h.side.reserveOut.toNat /
    (h.side.reserveIn.toNat * feeBase.toNat + amount * keptParts h.fee)

def quotientAfter (amount : Nat) (hops : List Hop) : Nat :=
  hops.foldl (fun held h => h.quotient held) amount

section OneHop

variable {h : Hop} {amount amount' : Word}

theorem toNat_output_le_reserve : (h.output amount).toNat ≤ h.side.reserveOut.toNat := by
  by_cases drained : h.side.reserveOut = 0
  · rw [output, drained, swapOutput_of_drained]
  · exact (toNat_swapOutput_lt (toNat_pos_iff.mpr drained)).le

theorem toNat_output_lt (small : h.Small) : (h.output amount).toNat < 2 ^ 112 :=
  toNat_output_le_reserve.trans_lt small.2

theorem terms_lt (small : h.Small) (amountSmall : amount.toNat < 2 ^ 112) :
    swapDividend amount h.side.reserveOut h.fee < 2 ^ 256 ∧
      swapDivisor amount h.side.reserveIn h.fee < 2 ^ 256 :=
  swapTerms_lt h.fee amountSmall small.1 small.2

/-- Where the terms fit, the checks of a swap only stop it when its dividend is zero or its pool
is empty, and then the quotient is zero as well. -/
theorem toNat_output_eq_quotient (small : h.Small) (amountSmall : amount.toNat < 2 ^ 112) :
    (h.output amount).toNat = h.quotient amount.toNat := by
  obtain ⟨dividendFits, divisorFits⟩ := terms_lt small amountSmall
  rw [output, toNat_swapOutput, quotient]
  split_ifs with pays empty empty
  · exact absurd empty pays.liquid
  · rfl
  · rfl
  · have zero : swapDividend amount h.side.reserveOut h.fee = 0 := by
      by_contra positive
      rw [swapDividend, Nat.mul_eq_zero, Nat.mul_eq_zero, not_or, not_or] at positive
      obtain ⟨⟨given, kept⟩, stocked⟩ := positive
      refine pays ⟨?_, empty, ?_, ?_, dividendFits, divisorFits⟩
      · exact toNat_pos_iff.mp (Nat.pos_of_ne_zero given)
      · exact toNat_pos_iff.mp (Nat.pos_of_ne_zero stocked)
      · exact UInt32.not_le.mp fun whole => kept (keptParts_eq_zero whole)
    exact ((congrArg (· / _) zero).trans (Nat.zero_div _)).symm

theorem toNat_output_mono (small : h.Small) (more : amount ≤ amount')
    (amountSmall : amount'.toNat < 2 ^ 112) :
    (h.output amount).toNat ≤ (h.output amount').toNat :=
  toNat_swapOutput_mono more (BitVec.le_refl _) id (BitVec.le_refl _) (UInt32.le_refl _)
    (terms_lt small amountSmall)

end OneHop

section Run

variable {hops : List Hop} {amount amount' : Word}

theorem toNat_outputAfter_lt (small : ∀ h ∈ hops, h.Small) (amountSmall : amount.toNat < 2 ^ 112) :
    (outputAfter amount hops).toNat < 2 ^ 112 := by
  induction hops generalizing amount with
  | nil => exact amountSmall
  | cons h hops ih =>
    obtain ⟨first, rest⟩ := List.forall_mem_cons.mp small
    exact ih rest (toNat_output_lt first)

theorem toNat_outputAfter_eq_quotientAfter (small : ∀ h ∈ hops, h.Small)
    (amountSmall : amount.toNat < 2 ^ 112) :
    (outputAfter amount hops).toNat = quotientAfter amount.toNat hops := by
  induction hops generalizing amount with
  | nil => rfl
  | cons h hops ih =>
    obtain ⟨first, rest⟩ := List.forall_mem_cons.mp small
    show (outputAfter (h.output amount) hops).toNat = quotientAfter (h.quotient amount.toNat) hops
    rw [ih rest (toNat_output_lt first), toNat_output_eq_quotient first amountSmall]

theorem toNat_outputAfter_mono (small : ∀ h ∈ hops, h.Small) (more : amount ≤ amount')
    (amountSmall : amount'.toNat < 2 ^ 112) :
    (outputAfter amount hops).toNat ≤ (outputAfter amount' hops).toNat := by
  induction hops generalizing amount amount' with
  | nil => exact more
  | cons h hops ih =>
    obtain ⟨first, rest⟩ := List.forall_mem_cons.mp small
    exact ih rest (toNat_output_mono first more amountSmall) (toNat_output_lt first)

end Run

end Hop

section Paths

variable {path : List Pair} {token : Address} {hops : List Hop}

theorem Pair.Small.hop {p : Pair} {side : Side} (small : p.Small)
    (paid : p.side? token = some side) : Hop.Small ⟨side, p.chargedFee⟩ := by
  unfold Pair.side? at paid
  split_ifs at paid
  · cases paid
    exact small
  · cases paid
    exact small.symm

theorem small_of_hopsFrom? (small : ∀ p ∈ path, p.Small)
    (carried : hopsFrom? path token = some hops) : ∀ h ∈ hops, h.Small := by
  induction path generalizing token hops with
  | nil =>
    cases carried
    exact fun h member => absurd member List.not_mem_nil
  | cons p path ih =>
    obtain ⟨first, rest⟩ := List.forall_mem_cons.mp small
    obtain ⟨side, paid, later⟩ := Option.bind_eq_some_iff.mp carried
    obtain ⟨hops, carried', rfl⟩ := Option.map_eq_some_iff.mp later
    exact List.forall_mem_cons.mpr ⟨first.hop paid, ih rest carried'⟩

def pathQuotient (token : Address) (amount : Nat) (path : List Pair) : Nat :=
  match hopsFrom? path token with
  | some hops => if Hop.tokenAfter token hops = token then Hop.quotientAfter amount hops else 0
  | none => 0

theorem toNat_pathOutput_mono {amount amount' : Word} (small : ∀ p ∈ path, p.Small)
    (more : amount ≤ amount') (amountSmall : amount'.toNat < 2 ^ 112) :
    (pathOutput token amount path).toNat ≤ (pathOutput token amount' path).toNat := by
  cases carried : hopsFrom? path token with
  | none => rw [pathOutput_of_no_hops carried, pathOutput_of_no_hops carried]
  | some hops =>
    rw [pathOutput_of_hops carried, pathOutput_of_hops carried]
    split_ifs
    · exact Hop.toNat_outputAfter_mono (small_of_hopsFrom? small carried) more amountSmall
    · exact le_rfl

/-- A run without an overflow: what reaches each pool is small and what the quotients so far make
of the amount, the terms of the next quotient fit in a word, and so what comes back is exact. -/
structure RunsExactly (token : Address) (amount : Word) (path : List Pair) : Prop where
  reached_lt : ∀ before held reached, before <+: path →
    swapThrough? before token amount = some (held, reached) → reached.toNat < 2 ^ 112
  reached_eq : ∀ before held reached, before <+: path →
    swapThrough? before token amount = some (held, reached) →
    ∃ hops, hopsFrom? before token = some hops ∧
      reached.toNat = Hop.quotientAfter amount.toNat hops
  terms_lt : ∀ before p held reached side, before ++ [p] <+: path →
    swapThrough? before token amount = some (held, reached) → p.side? held = some side →
    swapDividend reached side.reserveOut p.chargedFee < 2 ^ 256 ∧
      swapDivisor reached side.reserveIn p.chargedFee < 2 ^ 256
  output_eq : (pathOutput token amount path).toNat = pathQuotient token amount.toNat path

section OneRun

variable {amount reached : Word} {held : Address}

theorem exists_hops_of_swapThrough? (small : ∀ p ∈ path, p.Small)
    (run : swapThrough? path token amount = some (held, reached)) :
    ∃ hops, hopsFrom? path token = some hops ∧ (∀ h ∈ hops, h.Small) ∧
      reached = Hop.outputAfter amount hops := by
  rw [swapThrough?_eq, Option.map_eq_some_iff] at run
  obtain ⟨hops, carried, same⟩ := run
  cases same
  exact ⟨hops, carried, small_of_hopsFrom? small carried, rfl⟩

theorem toNat_lt_of_swapThrough? (small : ∀ p ∈ path, p.Small)
    (amountSmall : amount.toNat < 2 ^ 112)
    (run : swapThrough? path token amount = some (held, reached)) : reached.toNat < 2 ^ 112 := by
  obtain ⟨hops, _, smallHops, rfl⟩ := exists_hops_of_swapThrough? small run
  exact Hop.toNat_outputAfter_lt smallHops amountSmall

theorem toNat_pathOutput_eq_pathQuotient (small : ∀ p ∈ path, p.Small)
    (amountSmall : amount.toNat < 2 ^ 112) :
    (pathOutput token amount path).toNat = pathQuotient token amount.toNat path := by
  unfold pathQuotient
  cases carried : hopsFrom? path token with
  | none =>
    rw [pathOutput_of_no_hops carried]
    rfl
  | some hops =>
    rw [pathOutput_of_hops carried]
    show _ = if Hop.tokenAfter token hops = token then _ else 0
    split_ifs
    · exact Hop.toNat_outputAfter_eq_quotientAfter (small_of_hopsFrom? small carried) amountSmall
    · rfl

theorem runsExactly_of_small (small : ∀ p ∈ path, p.Small) (amountSmall : amount.toNat < 2 ^ 112) :
    RunsExactly token amount path where
  reached_lt before held reached part run :=
    toNat_lt_of_swapThrough? (fun p member => small p (part.subset member)) amountSmall run
  reached_eq before held reached part run := by
    obtain ⟨hops, carried, smallHops, rfl⟩ :=
      exists_hops_of_swapThrough? (fun p member => small p (part.subset member)) run
    exact ⟨hops, carried, Hop.toNat_outputAfter_eq_quotientAfter smallHops amountSmall⟩
  terms_lt before p held reached side part run paid := by
    have smallPart : ∀ q ∈ before ++ [p], q.Small := fun q member => small q (part.subset member)
    rw [List.forall_mem_append, List.forall_mem_singleton] at smallPart
    have reachedSmall := toNat_lt_of_swapThrough? smallPart.1 amountSmall run
    exact Hop.terms_lt (smallPart.2.hop paid) reachedSmall
  output_eq := toNat_pathOutput_eq_pathQuotient small amountSmall

end OneRun

end Paths

/-- Through pools below `2 ^ 112`, amounts below `2 ^ 112` come back in their order, and neither
run overflows. -/
theorem pathOutput_mono_of_small {path : List Pair} (token : Address) {amount amount' : Word}
    (small : ∀ p ∈ path, p.Small) (more : amount ≤ amount')
    (amountSmall : amount'.toNat < 2 ^ 112) :
    pathOutput token amount path ≤ pathOutput token amount' path ∧
      RunsExactly token amount path ∧ RunsExactly token amount' path :=
  ⟨toNat_pathOutput_mono small more amountSmall,
    runsExactly_of_small small (lt_of_le_of_lt more amountSmall),
    runsExactly_of_small small amountSmall⟩

def greatestSmall : Word := 0xffffffffffffffffffffffffffff

def brimmingPath : List Pair :=
  [⟨.uniswapV2, 0xa1, 1, 2, greatestSmall, greatestSmall, none, false, ⟨⟨1, 0, 0⟩, 0⟩, .none⟩,
    ⟨.uniswapV2, 0xa2, 3, 2, greatestSmall, greatestSmall, none, false, ⟨⟨1, 0, 0⟩, 0⟩, .none⟩,
    ⟨.uniswapV2, 0xa3, 3, 1, 1000, greatestSmall, some 0, false, ⟨⟨1, 0, 0⟩, 0⟩, .none⟩]

theorem brimmingPath_runs_exactly :
    (∀ p ∈ brimmingPath, p.Small) ∧ greatestSmall.toNat < 2 ^ 112 ∧
      pathOutput 1 1000000 brimmingPath ≤ pathOutput 1 greatestSmall brimmingPath ∧
      RunsExactly 1 greatestSmall brimmingPath ∧
      0 < pathQuotient 1 greatestSmall.toNat brimmingPath := by
  have small : ∀ p ∈ brimmingPath, p.Small := by decide
  have more : (1000000 : Word) ≤ greatestSmall := by decide
  have greatest : greatestSmall.toNat < 2 ^ 112 := by decide
  obtain ⟨ordered, _, exactly⟩ := pathOutput_mono_of_small 1 small more greatest
  exact ⟨small, greatest, ordered, exactly, by decide⟩

end SwapLoops
