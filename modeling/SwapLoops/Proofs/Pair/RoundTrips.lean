import SwapLoops.Proofs.Pair.SwapOutput

/-! A path and the same path backwards. Each pool takes back at most what it paid, for less than
it was paid for it, so the trip out and back ends with less than it began with. The fee is not
needed for this, nor that the amounts fit: the pool keeps its product even without a fee. -/

namespace SwapLoops

section OnePool

variable {amount back reserveIn reserveOut : Word} {fee fee' : UInt32}

/-- A pool that takes back at most what it paid pays less for it than it was paid. -/
theorem toNat_swapOutput_back_lt (given : 0 < amount.toNat)
    (kept : back.toNat ≤ (swapOutput amount reserveIn reserveOut fee).toNat) :
    (swapOutput back reserveOut reserveIn fee').toNat < amount.toNat := by
  by_cases nothing : back = 0
  · rw [nothing, swapOutput_of_nothing]
    exact given
  -- Each swap pays at most its share of the other reserve, with what was paid in on top of its own.
  · have out : back.toNat * (reserveIn.toNat + amount.toNat) ≤ amount.toNat * reserveOut.toNat :=
      (Nat.mul_le_mul_right _ kept).trans toNat_swapOutput_mul_add_le
    have home : (swapOutput back reserveOut reserveIn fee').toNat *
        (reserveOut.toNat + back.toNat) ≤ back.toNat * reserveIn.toNat :=
      toNat_swapOutput_mul_add_le
    have moved : 0 < back.toNat * amount.toNat := Nat.mul_pos (toNat_pos_iff.mpr nothing) given
    apply Nat.lt_of_mul_lt_mul_right (a := reserveOut.toNat + back.toNat)
    calc (swapOutput back reserveOut reserveIn fee').toNat * (reserveOut.toNat + back.toNat)
      _ ≤ back.toNat * reserveIn.toNat := home
      _ < back.toNat * (reserveIn.toNat + amount.toNat) := by
        rw [Nat.mul_add]
        exact Nat.lt_add_of_pos_right moved
      _ ≤ amount.toNat * reserveOut.toNat := out
      _ ≤ amount.toNat * (reserveOut.toNat + back.toNat) :=
        Nat.mul_le_mul_left _ (Nat.le_add_right _ _)

theorem toNat_swapOutput_back_le
    (kept : back.toNat ≤ (swapOutput amount reserveIn reserveOut fee).toNat) :
    (swapOutput back reserveOut reserveIn fee').toNat ≤ amount.toNat := by
  by_cases nothing : amount = 0
  · rw [nothing, swapOutput_of_nothing] at kept
    have none : back = 0 := BitVec.eq_of_toNat_eq (Nat.le_zero.mp kept)
    rw [none, swapOutput_of_nothing]
    exact Nat.zero_le _
  · exact (toNat_swapOutput_back_lt (toNat_pos_iff.mpr nothing) kept).le

end OnePool

namespace Pair

variable {p : Pair} {token : Address} {side : Side}

theorem side?_back (apart : p.token0 ≠ p.token1) (paid : p.side? token = some side) :
    p.side? side.received = some ⟨token, side.reserveOut, side.reserveIn⟩ := by
  unfold side? at paid ⊢
  split_ifs at paid with first second
  · cases paid
    rw [if_neg apart.symm, if_pos rfl, first]
  · cases paid
    rw [if_pos rfl, second]

theorem exists_swap?_back (apart : p.token0 ≠ p.token1) {amount : Word} {held : Address × Word}
    (out : p.swap? token amount = some held) {reached : Word}
    (kept : reached.toNat ≤ held.2.toNat) :
    ∃ back, p.swap? held.1 reached = some (token, back) ∧ back.toNat ≤ amount.toNat ∧
      (0 < amount.toNat → back.toNat < amount.toNat) := by
  obtain ⟨side, paid, rfl⟩ := Option.map_eq_some_iff.mp out
  refine ⟨swapOutput reached side.reserveOut side.reserveIn p.chargedFee, ?_,
    toNat_swapOutput_back_le kept, fun given => toNat_swapOutput_back_lt given kept⟩
  rw [swap?, side?_back apart paid]
  rfl

end Pair

section Trips

variable {path : List Pair} {token : Address} {amount : Word}

theorem swapThrough?_cons (p : Pair) (path : List Pair) (token : Address) (amount : Word) :
    swapThrough? (p :: path) token amount =
      (p.swap? token amount).bind fun held => swapThrough? path held.1 held.2 := by
  rw [swapThrough?, List.foldlM_cons]
  rfl

theorem swapThrough?_append (path path' : List Pair) (token : Address) (amount : Word) :
    swapThrough? (path ++ path') token amount =
      (swapThrough? path token amount).bind fun held => swapThrough? path' held.1 held.2 := by
  rw [swapThrough?, List.foldlM_append]
  rfl

theorem swapThrough?_singleton (p : Pair) (token : Address) (amount : Word) :
    swapThrough? [p] token amount = p.swap? token amount := by
  rw [swapThrough?_cons]
  cases p.swap? token amount with
  | none => rfl
  | some held => rfl

theorem heldAfter?_eq_map_fst (path : List Pair) (token : Address) (amount : Word) :
    heldAfter? path token = (swapThrough? path token amount).map Prod.fst := by
  rw [heldAfter?_eq, swapThrough?_eq, Option.map_map]
  rfl

/-- Every path that carries the token brings it back when it is turned round, with at most the
amount. By induction on the path: the first pool is also the last, and between its two swaps lies
a trip through the others, which at most loses. -/
theorem exists_swapThrough?_back (apart : ∀ p ∈ path, p.token0 ≠ p.token1)
    {held : Address × Word} (out : swapThrough? path token amount = some held) :
    ∃ back, swapThrough? (path ++ path.reverse) token amount = some (token, back) ∧
      back.toNat ≤ amount.toNat ∧ (path ≠ [] → 0 < amount.toNat → back.toNat < amount.toNat) := by
  induction path generalizing token amount with
  | nil => exact ⟨amount, rfl, le_rfl, fun nonempty => absurd rfl nonempty⟩
  | cons p path ih =>
    obtain ⟨first, rest⟩ := List.forall_mem_cons.mp apart
    rw [swapThrough?_cons] at out
    obtain ⟨next, swapped, further⟩ := Option.bind_eq_some_iff.mp out
    obtain ⟨reached, inner, kept, _⟩ := ih rest further
    obtain ⟨back, home, atMost, less⟩ := p.exists_swap?_back first swapped kept
    refine ⟨back, ?_, atMost, fun _ => less⟩
    rw [List.reverse_cons, List.cons_append, ← List.append_assoc, swapThrough?_cons, swapped,
      Option.bind_some, swapThrough?_append, inner, Option.bind_some, swapThrough?_singleton]
    exact home

theorem returnsTo_append_reverse (nonempty : path ≠ []) (apart : ∀ p ∈ path, p.token0 ≠ p.token1)
    (carried : (heldAfter? path token).isSome) : ReturnsTo token (path ++ path.reverse) := by
  rw [heldAfter?_eq_map_fst path token 0, Option.isSome_map, Option.isSome_iff_exists] at carried
  obtain ⟨held, out⟩ := carried
  obtain ⟨back, trip, _⟩ := exists_swapThrough?_back apart out
  refine ⟨List.append_ne_nil_of_left_ne_nil nonempty _, ?_⟩
  rw [heldAfter?_eq_map_fst _ token 0, trip]
  rfl

end Trips

/-- Out and back through a path ends with less than was taken along. A path that does not carry
the token pays nothing; any other does bring it back. -/
theorem pathOutput_append_reverse_lt {path : List Pair} {amount : Word} (token : Address)
    (nonempty : path ≠ []) (apart : ∀ p ∈ path, p.token0 ≠ p.token1) (given : 0 < amount) :
    pathOutput token amount (path ++ path.reverse) < amount ∧
      ((heldAfter? path token).isSome → ReturnsTo token (path ++ path.reverse)) := by
  refine ⟨?_, returnsTo_append_reverse nonempty apart⟩
  cases out : swapThrough? path token amount with
  | none =>
    rw [pathOutput, swapThrough?_append, out]
    exact given
  | some held =>
    obtain ⟨back, trip, _, less⟩ := exists_swapThrough?_back apart out
    rw [pathOutput, trip]
    show (if token = token then back else 0) < amount
    rw [if_pos rfl]
    exact less nonempty given

def freePool : Pair :=
  ⟨.uniswapV2, 0xa1, 1, 2, 1000, 2000, some 0, false, ⟨⟨1, 0, 0⟩, 0⟩, .none⟩

/-- Through one pool without a fee, and with so much that the swap overflows. -/
theorem freePool_out_and_back_loses :
    freePool.token0 ≠ freePool.token1 ∧ (0 : Word) < 100 ∧
      pathOutput 1 100 [freePool, freePool] < 100 ∧
      pathOutput 1 100 [freePool, freePool] = 82 ∧
      pathOutput 1 Word.max [freePool, freePool] < Word.max ∧
      ReturnsTo 1 [freePool, freePool] := by
  have apart : ∀ p ∈ [freePool], p.token0 ≠ p.token1 := by decide
  have little : (0 : Word) < 100 := by decide
  have all : (0 : Word) < Word.max := by decide
  obtain ⟨less, returns⟩ := pathOutput_append_reverse_lt 1 (by decide) apart little
  obtain ⟨nothing, _⟩ := pathOutput_append_reverse_lt 1 (by decide) apart all
  exact ⟨by decide, little, less, by decide, nothing, returns (by decide)⟩

end SwapLoops
