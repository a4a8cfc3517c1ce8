/-! Amounts, reserves and liquidity products are 256-bit words.
The plain operators of `BitVec` wrap; the operations here either report an
overflow or stop at the greatest word. -/

namespace SwapLoops

abbrev Word := BitVec 256

namespace Word

def max : Word := BitVec.allOnes 256

def add? (a b : Word) : Option Word :=
  if a.toNat + b.toNat ≤ max.toNat then some (a + b) else none

def mul? (a b : Word) : Option Word :=
  if a.toNat * b.toNat ≤ max.toNat then some (a * b) else none

def satAdd (a b : Word) : Word := (add? a b).getD max

def satMul (a b : Word) : Word := (mul? a b).getD max

def satSub (a b : Word) : Word := BitVec.ofNat 256 (a.toNat - b.toNat)

theorem le_max (a : Word) : a.toNat ≤ max.toNat := by
  rw [max, BitVec.toNat_allOnes]
  exact Nat.le_pred_of_lt a.isLt

theorem toNat_ofNat_of_le {n : Nat} (h : n ≤ max.toNat) : (BitVec.ofNat 256 n).toNat = n := by
  rw [max, BitVec.toNat_allOnes] at h
  rw [BitVec.toNat_ofNat, Nat.mod_eq_of_lt (by omega)]

theorem toNat_add_of_le {a b : Word} (h : a.toNat + b.toNat ≤ max.toNat) :
    (a + b).toNat = a.toNat + b.toNat := by
  rw [BitVec.toNat_add, ← BitVec.toNat_ofNat, toNat_ofNat_of_le h]

theorem toNat_mul_of_le {a b : Word} (h : a.toNat * b.toNat ≤ max.toNat) :
    (a * b).toNat = a.toNat * b.toNat := by
  rw [BitVec.toNat_mul, ← BitVec.toNat_ofNat, toNat_ofNat_of_le h]

theorem add?_eq_some_iff {a b c : Word} :
    add? a b = some c ↔ a.toNat + b.toNat = c.toNat := by
  unfold add?
  have hc := le_max c
  split
  · next h =>
    rw [Option.some.injEq, ← BitVec.toNat_inj, toNat_add_of_le h]
  · next h =>
    constructor
    · intro hn
      cases hn
    · intro hn
      omega

theorem mul?_eq_some_iff {a b c : Word} :
    mul? a b = some c ↔ a.toNat * b.toNat = c.toNat := by
  unfold mul?
  have hc := le_max c
  split
  · next h =>
    rw [Option.some.injEq, ← BitVec.toNat_inj, toNat_mul_of_le h]
  · next h =>
    constructor
    · intro hn
      cases hn
    · intro hn
      omega

theorem toNat_satAdd (a b : Word) :
    (satAdd a b).toNat = min (a.toNat + b.toNat) max.toNat := by
  unfold satAdd add?
  split
  · next h =>
    rw [Option.getD_some, toNat_add_of_le h, Nat.min_eq_left h]
  · next h =>
    rw [Option.getD_none, Nat.min_eq_right (Nat.le_of_not_le h)]

theorem toNat_satMul (a b : Word) :
    (satMul a b).toNat = min (a.toNat * b.toNat) max.toNat := by
  unfold satMul mul?
  split
  · next h =>
    rw [Option.getD_some, toNat_mul_of_le h, Nat.min_eq_left h]
  · next h =>
    rw [Option.getD_none, Nat.min_eq_right (Nat.le_of_not_le h)]

theorem toNat_satSub (a b : Word) : (satSub a b).toNat = a.toNat - b.toNat := by
  have ha := a.isLt
  rw [satSub, BitVec.toNat_ofNat, Nat.mod_eq_of_lt (by omega)]

end Word

end SwapLoops
