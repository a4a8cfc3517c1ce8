import Mathlib
import SwapLoops.Pair.Swap

/-! Swaps one by one: what a single one pays, and a path of pairs as the hops that an
amount takes through it. -/

namespace SwapLoops

def keptParts (fee : UInt32) : Nat := feeBase.toNat - fee.toNat

theorem keptParts_eq_zero {fee : UInt32} (whole : feeBase ≤ fee) : keptParts fee = 0 :=
  Nat.sub_eq_zero_of_le (UInt32.le_iff_toNat_le.mp whole)

theorem toNat_keptShare {fee : UInt32} (below : fee < feeBase) :
    (keptShare fee).toNat = keptParts fee := by
  have small := (feeBase - fee).toNat_lt
  rw [keptShare, BitVec.toNat_ofNat, Nat.mod_eq_of_lt (by omega),
    UInt32.toNat_sub_of_le _ _ (UInt32.le_of_lt below), keptParts]

theorem toNat_feeWord : (BitVec.ofNat 256 feeBase.toNat).toNat = feeBase.toNat := by decide

section Output

variable {amount reserveIn reserveOut out : Word} {fee : UInt32}

theorem swapOutput?_eq_some_iff (below : fee < feeBase) :
    swapOutput? amount reserveIn reserveOut fee = some out ↔
      amount.toNat * keptParts fee * reserveOut.toNat ≤ Word.max.toNat ∧
        reserveIn.toNat * feeBase.toNat + amount.toNat * keptParts fee ≤ Word.max.toNat ∧
        0 < reserveIn.toNat * feeBase.toNat + amount.toNat * keptParts fee ∧
        out.toNat = amount.toNat * keptParts fee * reserveOut.toNat /
          (reserveIn.toNat * feeBase.toNat + amount.toNat * keptParts fee) := by
  have share := toNat_keptShare below
  simp only [swapOutput?, Option.bind_eq_bind, Option.bind_eq_some_iff, Word.mul?_eq_some_iff,
    Word.add?_eq_some_iff, share, toNat_feeWord]
  constructor
  · rintro ⟨paid, paid_eq, numerator, numerator_eq, scaled, scaled_eq, denominator, denominator_eq,
      quotient⟩
    rw [paid_eq, numerator_eq, scaled_eq, denominator_eq]
    split_ifs at quotient with zero
    cases quotient
    refine ⟨Word.le_max _, Word.le_max _, ?_, BitVec.toNat_udiv⟩
    rw [Nat.pos_iff_ne_zero]
    exact fun none => zero (BitVec.eq_of_toNat_eq none)
  · rintro ⟨numeratorFits, denominatorFits, positive, out_eq⟩
    have paid_eq := Word.toNat_ofNat_of_le (n := amount.toNat * keptParts fee) (by omega)
    have scaled_eq := Word.toNat_ofNat_of_le (n := reserveIn.toNat * feeBase.toNat) (by omega)
    have numerator_eq := Word.toNat_ofNat_of_le numeratorFits
    have denominator_eq := Word.toNat_ofNat_of_le denominatorFits
    refine ⟨BitVec.ofNat 256 (amount.toNat * keptParts fee), paid_eq.symm,
      BitVec.ofNat 256 (amount.toNat * keptParts fee * reserveOut.toNat), ?_,
      BitVec.ofNat 256 (reserveIn.toNat * feeBase.toNat), scaled_eq.symm,
      BitVec.ofNat 256 (reserveIn.toNat * feeBase.toNat + amount.toNat * keptParts fee), ?_, ?_⟩
    · rw [paid_eq, numerator_eq]
    · rw [paid_eq, scaled_eq, denominator_eq]
    · rw [if_neg, Option.some.injEq, ← BitVec.toNat_inj, BitVec.toNat_udiv, numerator_eq,
        denominator_eq, out_eq]
      intro zero
      rw [zero] at denominator_eq
      exact positive.ne denominator_eq

/-- No swap pays more than its amount at the rate of the reserves net of the fee, also
where the amounts are too large to be multiplied. -/
theorem toNat_swapOutput_mul_le :
    (swapOutput amount reserveIn reserveOut fee).toNat * (reserveIn.toNat * feeBase.toNat) ≤
      amount.toNat * (reserveOut.toNat * keptParts fee) := by
  unfold swapOutput
  split_ifs with empty
  · simp
  · have below : fee < feeBase := by
      rw [not_or, not_or, not_or] at empty
      exact UInt32.not_le.mp empty.2.2.2
    cases paid : swapOutput? amount reserveIn reserveOut fee with
    | none => simp
    | some out =>
      obtain ⟨_, _, _, out_eq⟩ := (swapOutput?_eq_some_iff below).mp paid
      rw [Option.getD_some]
      calc out.toNat * (reserveIn.toNat * feeBase.toNat)
        _ ≤ out.toNat * (reserveIn.toNat * feeBase.toNat + amount.toNat * keptParts fee) :=
          Nat.mul_le_mul_left _ (Nat.le_add_right _ _)
        _ ≤ amount.toNat * keptParts fee * reserveOut.toNat := by
          rw [out_eq]
          exact Nat.div_mul_le_self _ _
        _ = amount.toNat * (reserveOut.toNat * keptParts fee) := by
          rw [Nat.mul_assoc, Nat.mul_comm (keptParts fee)]

theorem swapOutput_of_nothing : swapOutput 0 reserveIn reserveOut fee = 0 :=
  if_pos (Or.inl rfl)

theorem swapOutput_of_empty : swapOutput amount 0 reserveOut fee = 0 :=
  if_pos (Or.inr (Or.inl rfl))

theorem swapOutput_of_drained : swapOutput amount reserveIn 0 fee = 0 :=
  if_pos (Or.inr (Or.inr (Or.inl rfl)))

end Output

structure Hop where
  side : Side
  fee : UInt32
deriving DecidableEq, Repr

namespace Hop

def output (h : Hop) (amount : Word) : Word :=
  swapOutput amount h.side.reserveIn h.side.reserveOut h.fee

def reservePaid (h : Hop) : Nat := h.side.reserveIn.toNat * feeBase.toNat

def reserveReceived (h : Hop) : Nat := h.side.reserveOut.toNat * keptParts h.fee

end Hop

def hopsFrom? : List Pair → Address → Option (List Hop)
  | [], _ => some []
  | p :: path, token =>
    (p.side? token).bind fun side => (hopsFrom? path side.received).map (⟨side, p.chargedFee⟩ :: ·)

namespace Hop

def tokenAfter (token : Address) (hops : List Hop) : Address :=
  hops.foldl (fun _ h => h.side.received) token

def outputAfter (amount : Word) (hops : List Hop) : Word :=
  hops.foldl (fun held h => h.output held) amount

end Hop

section Paths

variable {path : List Pair} {token : Address} {hops : List Hop}

theorem heldAfter?_eq (path : List Pair) (token : Address) :
    heldAfter? path token = (hopsFrom? path token).map (Hop.tokenAfter token) := by
  induction path generalizing token with
  | nil => rfl
  | cons p path ih =>
    rw [heldAfter?, List.foldlM_cons, hopsFrom?, Pair.otherToken?]
    cases p.side? token with
    | none => rfl
    | some side =>
      show heldAfter? path side.received = _
      rw [ih, Option.bind_some, Option.map_map]
      rfl

theorem swapThrough?_eq (path : List Pair) (token : Address) (amount : Word) :
    swapThrough? path token amount =
      (hopsFrom? path token).map fun hops =>
        (Hop.tokenAfter token hops, Hop.outputAfter amount hops) := by
  induction path generalizing token amount with
  | nil => rfl
  | cons p path ih =>
    rw [swapThrough?, List.foldlM_cons, hopsFrom?, Pair.swap?]
    cases p.side? token with
    | none => rfl
    | some side =>
      show swapThrough? path side.received _ = _
      rw [ih, Option.bind_some, Option.map_map]
      rfl

theorem pathOutput_of_hops (carried : hopsFrom? path token = some hops) (amount : Word) :
    pathOutput token amount path =
      if Hop.tokenAfter token hops = token then Hop.outputAfter amount hops else 0 := by
  rw [pathOutput, swapThrough?_eq, carried]
  rfl

theorem pathOutput_of_no_hops (broken : hopsFrom? path token = none) (amount : Word) :
    pathOutput token amount path = 0 := by
  rw [pathOutput, swapThrough?_eq, broken]
  rfl

theorem toNat_pathOutput_le (carried : hopsFrom? path token = some hops) (amount : Word) :
    (pathOutput token amount path).toNat ≤ (Hop.outputAfter amount hops).toNat := by
  rw [pathOutput_of_hops carried]
  split_ifs
  · exact le_rfl
  · exact Nat.zero_le _

theorem exists_hops_of_returnsTo (returns : ReturnsTo token path) :
    ∃ hops, hopsFrom? path token = some hops ∧ Hop.tokenAfter token hops = token := by
  obtain ⟨_, held⟩ := returns
  rwa [heldAfter?_eq, Option.map_eq_some_iff] at held

end Paths

end SwapLoops
