import SwapLoops.Proofs.Pair.RoundTrips
import SwapLoops.Proofs.Trade.LastCheck

/-! Which paths are traded. The test that a path leads back to the base, the swaps through it and
the look at the reserve it enters each go by the tokens of the pairs. They hold the same tokens
after each pair, also where those of a pair coincide, so sizing and the check before a trade refuse
the same paths. -/

namespace SwapLoops

namespace Pair

variable {p : Pair} {paid received : Address}

def Passes (p : Pair) (paid received : Address) : Prop :=
  paid = p.token0 ∧ received = p.token1 ∨ paid ≠ p.token0 ∧ paid = p.token1 ∧ received = p.token0

instance (p : Pair) (paid received : Address) : Decidable (p.Passes paid received) :=
  inferInstanceAs (Decidable (_ ∨ _))

theorem otherToken?_eq_some_iff : p.otherToken? paid = some received ↔ p.Passes paid received := by
  unfold otherToken? side? Passes
  split_ifs with first second
  · simp only [Option.map_some, Option.some.injEq, first, true_and, ne_eq, not_true_eq_false,
      false_and, or_false]
    exact eq_comm
  · simp only [Option.map_some, Option.some.injEq, first, false_and, ne_eq, not_false_eq_true,
      true_and, false_or, and_iff_right second]
    exact eq_comm
  · simp [first, second]

end Pair

inductive Carries : Address → List Pair → List Address → Prop
  | stay (token : Address) : Carries token [] []
  | hop {p : Pair} {path : List Pair} {paid received : Address} {tokens : List Address}
      (passes : p.Passes paid received) (rest : Carries received path tokens) :
      Carries paid (p :: path) (received :: tokens)

section Followed

variable {path : List Pair} {base token held : Address} {tokens : List Address}

theorem Carries.heldAfter?_take (carries : Carries token path tokens) {k : Nat}
    (within : k ≤ path.length) : heldAfter? (path.take k) token = (token :: tokens)[k]? := by
  induction carries generalizing k with
  | stay token =>
    obtain rfl := Nat.le_zero.mp within
    rfl
  | hop passes rest ih =>
    cases k with
    | zero => rfl
    | succ k =>
      rw [List.take_succ_cons, heldAfter?, List.foldlM_cons,
        Pair.otherToken?_eq_some_iff.mpr passes]
      exact ih (Nat.le_of_succ_le_succ within)

theorem Carries.length_eq (carries : Carries token path tokens) : tokens.length = path.length := by
  induction carries with
  | stay => rfl
  | hop passes rest ih => simp [ih]

theorem Carries.ne_nil (carries : Carries token path tokens) (nonempty : path ≠ []) :
    tokens ≠ [] := by
  apply List.ne_nil_of_length_pos
  rw [carries.length_eq]
  exact List.length_pos_iff.mpr nonempty

theorem exists_carries (followed : heldAfter? path token = some held) :
    ∃ tokens, Carries token path tokens := by
  induction path generalizing token with
  | nil => exact ⟨[], .stay token⟩
  | cons p path ih =>
    rw [heldAfter?, List.foldlM_cons] at followed
    obtain ⟨next, passed, further⟩ := Option.bind_eq_some_iff.mp followed
    obtain ⟨tokens, rest⟩ := ih further
    exact ⟨next :: tokens, .hop (Pair.otherToken?_eq_some_iff.mp passed) rest⟩

theorem Carries.heldAfter?_eq (carries : Carries token path tokens) :
    heldAfter? path token = (token :: tokens).getLast? := by
  have whole := carries.heldAfter?_take le_rfl
  rw [List.take_length, ← carries.length_eq] at whole
  rw [whole, List.getLast?_eq_getElem?]
  rfl

theorem returnsTo_iff_carries (nonempty : path ≠ []) :
    ReturnsTo base path ↔ ∃ tokens, Carries base path tokens ∧ tokens.getLast? = some base := by
  constructor
  · rintro ⟨_, held⟩
    obtain ⟨tokens, carries⟩ := exists_carries held
    refine ⟨tokens, carries, ?_⟩
    rwa [carries.heldAfter?_eq, List.getLast?_cons_of_ne_nil (carries.ne_nil nonempty)] at held
  · rintro ⟨tokens, carries, last⟩
    refine ⟨nonempty, ?_⟩
    rwa [carries.heldAfter?_eq, List.getLast?_cons_of_ne_nil (carries.ne_nil nonempty)]

theorem Carries.swapThrough?_take (carries : Carries token path tokens) (amount : Word) {k : Nat}
    (within : k ≤ path.length) :
    (swapThrough? (path.take k) token amount).map Prod.fst = (token :: tokens)[k]? := by
  rw [← heldAfter?_eq_map_fst, carries.heldAfter?_take within]

theorem pathOutput_of_not_returnsTo (nonempty : path ≠ []) (astray : ¬ReturnsTo base path)
    (amount : Word) : pathOutput base amount path = 0 := by
  unfold pathOutput
  cases run : swapThrough? path base amount with
  | none => rfl
  | some reached =>
    apply if_neg
    intro home
    refine astray ⟨nonempty, ?_⟩
    rw [heldAfter?_eq_map_fst path base amount, run, Option.map_some, home]

end Followed

/-- A path leads back to the base exactly when its pairs hand the base on to the base. Sizing
refuses exactly the other paths, the swaps through such a path pay nothing, and the check before a
trade refuses it. Where the pairs hand on some tokens, the test and the swaps hold just these, one
after the other. -/
theorem path_checks_agree {path : List Pair} (base : Address) (nonempty : path ≠ []) :
    (ReturnsTo base path ↔ ∃ tokens, Carries base path tokens ∧ tokens.getLast? = some base) ∧
    (∀ minReceive gas,
      Sizing.sizeFor base minReceive path gas = .invalidPath ↔ ¬ReturnsTo base path) ∧
    (¬ReturnsTo base path → ∀ amount gas, pathOutput base amount path = 0 ∧
      recheck base amount path gas = .error .invalidPath) ∧
    ∀ tokens, Carries base path tokens → ∀ k ≤ path.length,
      heldAfter? (path.take k) base = (base :: tokens)[k]? ∧
      ∀ amount, (swapThrough? (path.take k) base amount).map Prod.fst = (base :: tokens)[k]? := by
  refine ⟨returnsTo_iff_carries nonempty, fun minReceive gas => Sizing.sizeFor_eq_invalidPath_iff,
    fun astray amount gas => ?_, fun tokens carries k within => ?_⟩
  · have nothing := pathOutput_of_not_returnsTo nonempty astray amount
    exact ⟨nothing, recheck_eq_invalidPath_iff.mpr nothing⟩
  · exact ⟨carries.heldAfter?_take within, fun amount => carries.swapThrough?_take amount within⟩

def twinPath : List Pair :=
  [⟨.uniswapV2, 0xa1, 1, 2, 1000, 2000, none, false, ⟨⟨1, 0, 0⟩, 0⟩, .none⟩,
    ⟨.uniswapV2, 0xa2, 2, 2, 5000, 4000, none, false, ⟨⟨1, 0, 0⟩, 0⟩, .none⟩,
    ⟨.uniswapV2, 0xa3, 1, 2, 3000, 1000, none, false, ⟨⟨1, 0, 0⟩, 0⟩, .none⟩]

/-- The twin pool hands its token on to itself. The path with it is sized, and without the last
pool it is refused by both checks. -/
theorem twinPath_checks_agree :
    twinPath ≠ [] ∧ ReturnsTo 1 twinPath ∧
      Sizing.sizeFor 1 0 twinPath .initial ≠ .invalidPath ∧
      (swapThrough? (twinPath.take 2) 1 100).map Prod.fst = some 2 ∧
      twinPath.take 2 ≠ [] ∧ ¬ReturnsTo 1 (twinPath.take 2) ∧
      Sizing.sizeFor 1 0 (twinPath.take 2) .initial = .invalidPath ∧
      recheck 1 100 (twinPath.take 2) .initial = .error .invalidPath := by
  have whole : twinPath ≠ [] := by decide
  have part : twinPath.take 2 ≠ [] := by decide
  obtain ⟨leads, sized, _, followed⟩ := path_checks_agree 1 whole
  obtain ⟨_, refused, unpaid, _⟩ := path_checks_agree 1 part
  have carries : Carries 1 twinPath [2, 2, 1] :=
    .hop (by decide) (.hop (by decide) (.hop (by decide) (.stay 1)))
  have returns : ReturnsTo 1 twinPath := leads.mpr ⟨_, carries, rfl⟩
  have astray : ¬ReturnsTo 1 (twinPath.take 2) := by decide
  exact ⟨whole, returns, fun refusal => (sized _ _).mp refusal returns,
    (followed _ carries 2 (by decide)).2 100, part, astray, (refused _ _).mpr astray,
    (unpaid astray 100 _).2⟩

end SwapLoops
