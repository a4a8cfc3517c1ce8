import Mathlib
import SwapLoops.Ether

/-! The product of two decimals is exact whenever a decimal can hold it, and there is none when its
whole part does not fit. -/

namespace SwapLoops.Decimal

theorem placeValue_eq (places : Nat) : Digits.placeValue places = 10 ^ places := rfl

theorem limit_eq : limit = 2 ^ 96 := rfl

def value (d : Decimal) : ℚ := (if d.negative then -1 else 1) * (d.mantissa / 10 ^ d.scale)

/-- What is relied on of a product: it is exact if a decimal can hold it, there is none if its whole
part takes more than a mantissa, and without a sign before it has none after. -/
structure MultipliesExactly (mul? : Decimal → Decimal → Option Decimal) : Prop where
  exact : ∀ a b d : Decimal, d.value = a.value * b.value →
    ∃ p, mul? a b = some p ∧ p.value = a.value * b.value
  overflow : ∀ a b : Decimal, 2 ^ 96 ≤ |a.value * b.value| → mul? a b = none
  unsigned : ∀ a b p : Decimal, mul? a b = some p → a.negative = false → b.negative = false →
    p.negative = false

variable {a b d : Decimal} {negative : Bool} {mantissa scale places : Nat}

theorem abs_value (d : Decimal) : |d.value| = d.mantissa / 10 ^ d.scale := by
  have positive : (0 : ℚ) ≤ d.mantissa / 10 ^ d.scale := by positivity
  unfold value
  split_ifs
  · rw [neg_one_mul, abs_neg, abs_of_nonneg positive]
  · rw [one_mul, abs_of_nonneg positive]

theorem value_of_unsigned (unsigned : d.negative = false) :
    d.value = d.mantissa / 10 ^ d.scale := by
  rw [value, unsigned, if_neg Bool.false_ne_true, one_mul]

theorem value_mk (fits : mantissa < limit) (short : scale ≤ 28) :
    value ⟨false, mantissa, scale, fits, short⟩ = mantissa / 10 ^ scale :=
  value_of_unsigned rfl

theorem value_mul_value (a b : Decimal) :
    a.value * b.value = (if a.negative != b.negative then -1 else 1) *
      ((a.mantissa * b.mantissa : Nat) / 10 ^ (a.scale + b.scale)) := by
  rw [value, value, Nat.cast_mul, pow_add]
  cases a.negative <;> cases b.negative <;> simp <;> ring

theorem ofParts?_eq_some_iff :
    ofParts? negative mantissa scale = some d ↔
      d.negative = negative ∧ d.mantissa = mantissa ∧ d.scale = scale := by
  obtain ⟨negative', mantissa', scale', fits, short⟩ := d
  unfold ofParts?
  split_ifs with fit
  · simp only [Option.some.injEq, Decimal.mk.injEq]
    exact ⟨fun ⟨h, h', h''⟩ => ⟨h.symm, h'.symm, h''.symm⟩,
      fun ⟨h, h', h''⟩ => ⟨h.symm, h'.symm, h''.symm⟩⟩
  · simp only [false_iff]
    rintro ⟨rfl, rfl, rfl⟩
    exact fit ⟨fits, short⟩

theorem roundHalfEven_mul {unit : Nat} (positive : 0 < unit) (kept : Nat) :
    Double.roundHalfEven (kept * unit) unit = kept := by
  unfold Double.roundHalfEven
  simp only [Nat.mul_div_cancel _ positive, Nat.mul_mod_left, Nat.mul_zero]
  rw [if_neg]
  omega

theorem le_roundHalfEven (num den : Nat) : num / den ≤ Double.roundHalfEven num den := by
  unfold Double.roundHalfEven
  dsimp only
  split_ifs
  · exact Nat.le_succ _
  · exact le_rfl

theorem mul?_of_zero (zero : a.mantissa * b.mantissa = 0) : mul? a b = ofParts? false 0 0 :=
  if_pos zero

theorem mul?_of_nonzero (nonzero : a.mantissa * b.mantissa ≠ 0) :
    mul? a b = (List.range (a.scale + b.scale + 1)).findSome? fun dropped =>
      ofParts? (a.negative != b.negative)
        (Double.roundHalfEven (a.mantissa * b.mantissa) (Digits.placeValue dropped))
        (a.scale + b.scale - dropped) :=
  if_neg nonzero

/-- If a decimal holds a product, then some of its last places are zero and the rest fits. -/
theorem exists_places (held : d.value = a.value * b.value) :
    ∃ kept places, a.mantissa * b.mantissa = kept * 10 ^ places ∧ places ≤ a.scale + b.scale ∧
      kept < limit ∧ a.scale + b.scale - places ≤ 28 := by
  have across : d.mantissa * 10 ^ (a.scale + b.scale) = a.mantissa * b.mantissa * 10 ^ d.scale := by
    have size := congrArg abs held
    have sides : |a.value * b.value| =
        (a.mantissa * b.mantissa : Nat) / 10 ^ (a.scale + b.scale) := by
      rw [abs_mul, abs_value, abs_value, Nat.cast_mul, pow_add]
      ring
    rw [abs_value, sides, div_eq_div_iff (by positivity) (by positivity)] at size
    exact_mod_cast size
  rcases le_total d.scale (a.scale + b.scale) with fewer | more
  · refine ⟨d.mantissa, a.scale + b.scale - d.scale, ?_, Nat.sub_le _ _, d.mantissa_lt, ?_⟩
    · have positive : 0 < 10 ^ d.scale := by positivity
      apply Nat.eq_of_mul_eq_mul_right positive
      rw [← across, Nat.mul_assoc, ← pow_add, Nat.sub_add_cancel fewer]
    · have short := d.scale_le
      omega
  · -- with more places than the product has, the mantissa is a multiple of the product's
    have multiple : d.mantissa = a.mantissa * b.mantissa * 10 ^ (d.scale - (a.scale + b.scale)) := by
      have positive : 0 < 10 ^ (a.scale + b.scale) := by positivity
      apply Nat.eq_of_mul_eq_mul_right positive
      rw [across, Nat.mul_assoc (a.mantissa * b.mantissa), ← pow_add, Nat.sub_add_cancel more]
    have fits : a.mantissa * b.mantissa ≤ d.mantissa :=
      multiple ▸ Nat.le_mul_of_pos_right _ (by positivity)
    exact ⟨a.mantissa * b.mantissa, 0, by simp, Nat.zero_le _, fits.trans_lt d.mantissa_lt,
      more.trans d.scale_le⟩

theorem exists_mul? {kept : Nat} (nonzero : a.mantissa * b.mantissa ≠ 0)
    (split : a.mantissa * b.mantissa = kept * 10 ^ places) (among : places ≤ a.scale + b.scale)
    (fits : kept < limit) (short : a.scale + b.scale - places ≤ 28) :
    ∃ p, mul? a b = some p ∧ p.value = a.value * b.value := by
  have rounds {fewer : Nat} (le : fewer ≤ places) :
      Double.roundHalfEven (a.mantissa * b.mantissa) (Digits.placeValue fewer) =
        kept * 10 ^ (places - fewer) := by
    have split' : a.mantissa * b.mantissa = kept * 10 ^ (places - fewer) * 10 ^ fewer := by
      rw [split, Nat.mul_assoc, ← pow_add, Nat.sub_add_cancel le]
    rw [split', placeValue_eq, roundHalfEven_mul (by positivity)]
  have listed : places ∈ List.range (a.scale + b.scale + 1) :=
    List.mem_range.mpr (Nat.lt_succ_of_le among)
  have enough : (ofParts? (a.negative != b.negative)
      (Double.roundHalfEven (a.mantissa * b.mantissa) (Digits.placeValue places))
      (a.scale + b.scale - places)).isSome = true := by
    rw [rounds le_rfl, Nat.sub_self, pow_zero, Nat.mul_one, ofParts?, dif_pos ⟨fits, short⟩]
    rfl
  have some_fit : (mul? a b).isSome = true := by
    rw [mul?_of_nonzero nonzero, List.findSome?_isSome_iff]
    exact ⟨places, listed, enough⟩
  obtain ⟨p, found⟩ := Option.isSome_iff_exists.mp some_fit
  refine ⟨p, found, ?_⟩
  rw [mul?_of_nonzero nonzero] at found
  obtain ⟨front, dropped, back, range, here, before⟩ := List.findSome?_eq_some_iff.mp found
  -- the first number of places that fits is no greater than this one
  have le : dropped ≤ places := by
    have ascending := range ▸ List.pairwise_lt_range (n := a.scale + b.scale + 1)
    rw [range, List.mem_append, List.mem_cons] at listed
    rcases listed with front' | rfl | back'
    · rw [before places front'] at enough
      cases enough
    · exact le_rfl
    · exact (List.rel_of_pairwise_cons (List.pairwise_append.mp ascending).2.1 back').le
  obtain ⟨sign, mantissa, scale⟩ := ofParts?_eq_some_iff.mp here
  rw [value, sign, mantissa, scale, rounds le, value_mul_value, split]
  congr 1
  rw [div_eq_div_iff (by positivity) (by positivity)]
  push_cast
  rw [mul_assoc, mul_assoc, ← pow_add, ← pow_add]
  congr 2
  omega

theorem multipliesExactly_mul? : MultipliesExactly mul? where
  exact a b d held := by
    by_cases zero : a.mantissa * b.mantissa = 0
    · refine ⟨⟨false, 0, 0, by decide, by decide⟩, mul?_of_zero zero, ?_⟩
      rw [value_mul_value, zero]
      simp [value]
    · obtain ⟨kept, places, split, among, fits, short⟩ := exists_places held
      exact exists_mul? zero split among fits short
  overflow a b wide := by
    rw [abs_mul, abs_value, abs_value, div_mul_div_comm, ← pow_add, le_div_iff₀ (by positivity)] at wide
    have wide' : limit * 10 ^ (a.scale + b.scale) ≤ a.mantissa * b.mantissa := by
      rw [limit_eq]
      exact_mod_cast wide
    have nonzero : a.mantissa * b.mantissa ≠ 0 := by
      have positive : 0 < limit * 10 ^ (a.scale + b.scale) := by
        rw [limit_eq]
        positivity
      omega
    rw [mul?_of_nonzero nonzero, List.findSome?_eq_none_iff]
    intro dropped listed
    rw [ofParts?, dif_neg]
    rintro ⟨fits, _⟩
    have among : dropped ≤ a.scale + b.scale := Nat.le_of_lt_succ (List.mem_range.mp listed)
    have kept : limit ≤ a.mantissa * b.mantissa / 10 ^ dropped := by
      rw [Nat.le_div_iff_mul_le (by positivity)]
      exact (Nat.mul_le_mul_left _ (Nat.pow_le_pow_right (by decide) among)).trans wide'
    exact Nat.not_lt.mpr (kept.trans (le_roundHalfEven _ _)) fits
  unsigned a b p given noSign noSign' := by
    by_cases zero : a.mantissa * b.mantissa = 0
    · rw [mul?_of_zero zero] at given
      exact (ofParts?_eq_some_iff.mp given).1
    · rw [mul?_of_nonzero zero] at given
      obtain ⟨dropped, _, here⟩ := List.exists_of_findSome?_eq_some given
      rw [(ofParts?_eq_some_iff.mp here).1, noSign, noSign']
      rfl

end SwapLoops.Decimal
