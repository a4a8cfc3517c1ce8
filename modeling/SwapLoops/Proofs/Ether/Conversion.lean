import SwapLoops.Proofs.Ether.Products

/-! Wei and ether, with an exact product of decimals. An amount of ether gives its whole wei if these
fit, and wei that fit come back from ether as they were. -/

namespace SwapLoops

namespace Decimal

variable {d : Decimal}

/-- The whole wei in as many ether as the decimal stands for, without its sign. -/
def wei (d : Decimal) : Nat := d.mantissa * 10 ^ 18 / 10 ^ d.scale

theorem value_weiPerEther : weiPerEther.value = 10 ^ 18 := by
  rw [value_of_unsigned rfl]
  norm_num [weiPerEther, placeValue_eq]

theorem natural?_trunc (unsigned : d.negative = false) : d.trunc.natural? = some ⌊d.value⌋₊ := by
  have cast : d.value = (d.mantissa : ℚ) / ((10 ^ d.scale : Nat) : ℚ) := by
    rw [value_of_unsigned unsigned]
    push_cast
    rfl
  have whole : d.trunc.natural? = some (d.mantissa / 10 ^ d.scale / 10 ^ 0) :=
    if_neg (Bool.eq_false_iff.mp unsigned)
  rw [whole, cast, Nat.floor_div_eq_div, pow_zero, Nat.div_one]

theorem mul_weiPerEther (unsigned : d.negative = false) :
    d.value * weiPerEther.value = (d.mantissa * 10 ^ 18 : Nat) / (10 ^ d.scale : Nat) := by
  rw [value_weiPerEther, value_of_unsigned unsigned, div_mul_eq_mul_div]
  push_cast
  rfl

theorem floor_mul_weiPerEther (unsigned : d.negative = false) :
    ⌊d.value * weiPerEther.value⌋₊ = d.wei := by
  rw [mul_weiPerEther unsigned, Nat.floor_div_eq_div, wei]

/-- As many wei as fit a mantissa are exactly some decimal, with their places behind the point. -/
theorem exists_value_wei (unsigned : d.negative = false) (fits : d.wei < limit) :
    ∃ e : Decimal, e.value = d.value * weiPerEther.value := by
  rw [mul_weiPerEther unsigned]
  rcases le_total 18 d.scale with long | short
  · have fewer : d.scale - 18 ≤ 28 := (Nat.sub_le _ _).trans d.scale_le
    refine ⟨⟨false, d.mantissa, d.scale - 18, d.mantissa_lt, fewer⟩, ?_⟩
    have split : 10 ^ d.scale = 10 ^ 18 * 10 ^ (d.scale - 18) := by
      rw [← pow_add, Nat.add_sub_of_le long]
    rw [value_mk, div_eq_div_iff (by positivity) (by positivity), split]
    push_cast
    ring
  · have split : 10 ^ 18 = 10 ^ (18 - d.scale) * 10 ^ d.scale := by
      rw [← pow_add, Nat.sub_add_cancel short]
    have whole : d.wei = d.mantissa * 10 ^ (18 - d.scale) := by
      rw [wei, split, ← Nat.mul_assoc, Nat.mul_div_cancel _ (by positivity)]
    refine ⟨⟨false, d.wei, 0, fits, Nat.zero_le _⟩, ?_⟩
    rw [value_mk, div_eq_div_iff (by positivity) (by positivity), whole, split]
    push_cast
    ring

end Decimal

open Decimal

variable {mul? : Decimal → Decimal → Option Decimal} {d : Decimal} {w : Word}

theorem etherToWeiBy?_eq (multiplies : MultipliesExactly mul?) (unsigned : d.negative = false) :
    etherToWeiBy? mul? d = if d.wei < 2 ^ 96 then some (BitVec.ofNat 256 d.wei) else none := by
  rw [etherToWeiBy?, if_neg (by simp [unsigned])]
  split_ifs with fits
  · obtain ⟨e, held⟩ := exists_value_wei unsigned fits
    obtain ⟨p, given, same⟩ := multiplies.exact d weiPerEther e held
    have unsigned' : p.negative = false := multiplies.unsigned _ _ p given unsigned rfl
    rw [given, Option.bind_eq_bind, Option.bind_some, natural?_trunc unsigned', same,
      floor_mul_weiPerEther unsigned]
    rfl
  · have wide : (2 : ℚ) ^ 96 ≤ |d.value * weiPerEther.value| := by
      have floor : 2 ^ 96 ≤ ⌊d.value * weiPerEther.value⌋₊ := by
        rw [floor_mul_weiPerEther unsigned]
        exact Nat.le_of_not_lt fits
      have below := (Nat.le_floor_iff' (by positivity)).mp floor
      push_cast at below
      exact below.trans (le_abs_self _)
    rw [multiplies.overflow d weiPerEther wide]
    rfl

theorem negative_of_etherToWeiBy? (given : etherToWeiBy? mul? d = some w) : d.negative = false := by
  unfold etherToWeiBy? at given
  split_ifs at given with signed
  exact Bool.eq_false_of_not_eq_true signed

theorem toNat_of_etherToWeiBy? (multiplies : MultipliesExactly mul?)
    (given : etherToWeiBy? mul? d = some w) : w.toNat = d.wei ∧ d.wei < 2 ^ 96 := by
  rw [etherToWeiBy?_eq multiplies (negative_of_etherToWeiBy? given)] at given
  split_ifs at given with fits
  cases given
  refine ⟨?_, fits⟩
  rw [BitVec.toNat_ofNat, Nat.mod_eq_of_lt (fits.trans (by norm_num))]

theorem weiToEther_eq (fits : w.toNat < 2 ^ 96) :
    weiToEther w = ⟨false, w.toNat, 18, fits, by decide⟩ := by
  rw [weiToEther, ofParts?, dif_pos ⟨fits, by decide⟩, Option.getD_some]

/-- With products that are exact, an amount of ether without a sign gives its whole wei if these
take at most 96 bits, and nothing else. More ether gives no fewer wei, and wei of up to 96 bits come
back from ether as they were. The products of `etherToWei?` are exact. -/
theorem etherToWei_keeps_amounts :
    MultipliesExactly Decimal.mul? ∧
    ∀ mul? : Decimal → Decimal → Option Decimal, MultipliesExactly mul? →
      (∀ d : Decimal, (etherToWeiBy? mul? d).map BitVec.toNat =
        if d.negative = false ∧ d.mantissa * 10 ^ 18 / 10 ^ d.scale < 2 ^ 96 then
          some (d.mantissa * 10 ^ 18 / 10 ^ d.scale)
        else none) ∧
      (∀ (d d' : Decimal) (w w' : Word), d.value ≤ d'.value → etherToWeiBy? mul? d = some w →
        etherToWeiBy? mul? d' = some w' → w.toNat ≤ w'.toNat) ∧
      ∀ w : Word, w.toNat < 2 ^ 96 → etherToWeiBy? mul? (weiToEther w) = some w := by
  refine ⟨multipliesExactly_mul?, fun mul? multiplies => ⟨?whole, ?monotone, ?back⟩⟩
  case whole =>
    intro d
    cases unsigned : d.negative with
    | true =>
      rw [etherToWeiBy?, if_pos unsigned, if_neg (by simp)]
      rfl
    | false =>
      rw [etherToWeiBy?_eq multiplies unsigned, ← Decimal.wei]
      by_cases fits : d.wei < 2 ^ 96
      · rw [if_pos fits, if_pos ⟨rfl, fits⟩, Option.map_some, BitVec.toNat_ofNat,
          Nat.mod_eq_of_lt (fits.trans (by norm_num))]
      · rw [if_neg fits, if_neg fun both => fits both.2, Option.map_none]
  case monotone =>
    intro d d' w w' le given given'
    rw [(toNat_of_etherToWeiBy? multiplies given).1, (toNat_of_etherToWeiBy? multiplies given').1,
      ← floor_mul_weiPerEther (negative_of_etherToWeiBy? given),
      ← floor_mul_weiPerEther (negative_of_etherToWeiBy? given'), value_weiPerEther]
    exact Nat.floor_le_floor (mul_le_mul_of_nonneg_right le (by positivity))
  case back =>
    intro w fits
    have same : Decimal.wei ⟨false, w.toNat, 18, fits, by decide⟩ = w.toNat :=
      Nat.mul_div_cancel _ (by positivity)
    rw [weiToEther_eq fits, etherToWeiBy?_eq multiplies rfl, same, if_pos fits, BitVec.ofNat_toNat,
      BitVec.setWidth_eq]

def fewWei : Decimal := ⟨false, 25000000000, 28, by decide, by decide⟩

def mostWei : Decimal := ⟨false, 79228162514264337593543950335, 18, by decide, by decide⟩

theorem fewWei_keep_amounts :
    MultipliesExactly Decimal.mul? ∧ (etherToWei? fewWei).map BitVec.toNat = some 2 ∧
      etherToWei? mostWei = some 79228162514264337593543950335 ∧
      fewWei.value ≤ mostWei.value ∧ (2 : Word).toNat ≤ (79228162514264337593543950335 : Word).toNat ∧
      etherToWei? (weiToEther 79228162514264337593543950335) =
        some 79228162514264337593543950335 := by
  obtain ⟨exact, keeps⟩ := etherToWei_keeps_amounts
  obtain ⟨whole, monotone, back⟩ := keeps Decimal.mul? exact
  have few : etherToWei? fewWei = some 2 := by decide +kernel
  have most : etherToWei? mostWei = some 79228162514264337593543950335 := by decide +kernel
  have le : fewWei.value ≤ mostWei.value := by
    rw [fewWei, mostWei, value_mk, value_mk]
    norm_num
  exact ⟨exact, whole fewWei, most, le, monotone _ _ _ _ le few most, back _ (by decide)⟩

end SwapLoops
