import SwapLoops.Proofs.Pair.Hops
import SwapLoops.Sizing

/-! What the outcome of sizing says about the path and the size. -/

namespace SwapLoops.Sizing

variable {base : Address} {minReceive : Word} {path : List Pair} {gas : GasQuote}
  {size : SizedTrade}

structure Clears (base : Address) (path : List Pair) (margin : Word) (size : SizedTrade) :
    Prop where
  margin_eq : size.margin = margin
  amountOut_eq : size.amountOut = pathOutput base size.amountIn path
  gain : size.amountIn.toNat + margin.toNat < size.amountOut.toNat

theorem satAdd_lt_iff {a b c : Word} : a.satAdd b < c ↔ a.toNat + b.toNat < c.toNat := by
  have fits := Word.le_max c
  rw [BitVec.lt_def, Word.toNat_satAdd]
  omega

theorem clears_of_search {margin amount : Word} {trial : Nat}
    (found : search base path margin amount trial = .profitable size) :
    Clears base path margin size := by
  fun_induction search base path margin amount trial with
  | case1 amount trial out profit =>
    cases found
    exact ⟨rfl, rfl, satAdd_lt_iff.mp profit⟩
  | case2 => cases found
  | case3 amount trial out profit more ih => exact ih found

theorem search_ne_invalidPath {margin amount : Word} {trial : Nat} :
    search base path margin amount trial ≠ .invalidPath := by
  fun_induction search base path margin amount trial with
  | case1 => exact SizeOutcome.noConfusion
  | case2 => exact SizeOutcome.noConfusion
  | case3 amount trial out profit more ih => exact ih

theorem exists_entry_of_returnsTo (returns : ReturnsTo base path) :
    ∃ reserve, path.head?.bind (·.reserveFor? base) = some reserve := by
  obtain ⟨nonempty, held⟩ := returns
  cases path with
  | nil => exact absurd rfl nonempty
  | cons p path =>
    rw [heldAfter?, List.foldlM_cons] at held
    obtain ⟨next, other, _⟩ := Option.bind_eq_some_iff.mp held
    obtain ⟨side, entered, _⟩ := Option.map_eq_some_iff.mp other
    exact ⟨side.reserveIn, Option.map_eq_some_iff.mpr ⟨side, entered, rfl⟩⟩

/-- Sizing refuses a path exactly when it does not lead back to the base. -/
theorem sizeFor_eq_invalidPath_iff :
    sizeFor base minReceive path gas = .invalidPath ↔ ¬ReturnsTo base path := by
  unfold sizeFor
  split_ifs with returns
  · obtain ⟨reserve, entry⟩ := exists_entry_of_returnsTo returns
    rw [entry]
    exact iff_of_false search_ne_invalidPath (not_not_intro returns)
  · exact iff_of_true rfl returns

theorem clears_of_sizeFor (sized : sizeFor base minReceive path gas = .profitable size) :
    ReturnsTo base path ∧ Clears base path (margin minReceive path.length gas) size := by
  unfold sizeFor at sized
  split_ifs at sized with returns
  obtain ⟨reserve, entry⟩ := exists_entry_of_returnsTo returns
  rw [entry] at sized
  exact ⟨returns, clears_of_search sized⟩

end SwapLoops.Sizing
