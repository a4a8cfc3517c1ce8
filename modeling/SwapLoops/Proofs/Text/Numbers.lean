import Mathlib
import SwapLoops.Address.Checksum
import SwapLoops.Text.Blank
import SwapLoops.Word.Text

/-! Numbers, addresses and words read back from the digits that they are written in. -/

namespace SwapLoops

namespace Digits

theorem toNat?_concat (radix : Nat) (digits : List Char) (c : Char) :
    toNat? radix (digits ++ [c]) = (toNat? radix digits).bind fun n => extend? radix n c := by
  simp [toNat?]

theorem extend?_of_value? {radix n d : Nat} {c : Char} (value : value? c = some d) (fits : d < radix) :
    extend? radix n c = some (n * radix + d) := by
  simp [extend?, value, fits]

theorem toNat?_congr {radix : Nat} {digits digits' : List Char}
    (same : digits.map value? = digits'.map value?) : toNat? radix digits = toNat? radix digits' := by
  have stepwise : ∀ (digits : List Char) (n : Nat), digits.foldlM (extend? radix) n =
      (digits.map value?).foldlM (fun n value => value.bind fun d =>
        if d < radix then some (n * radix + d) else none) n := by
    intro digits n
    rw [List.foldlM_map]
    congr 1
    funext n c
    cases value : value? c <;> simp [extend?, value]
  rw [toNat?, toNat?, stepwise, stepwise, same]

theorem value?_isSome_of_toNat? {radix n : Nat} {digits : List Char}
    (read : toNat? radix digits = some n) : ∀ c ∈ digits, (value? c).isSome = true := by
  induction digits using List.reverseRecOn generalizing n with
  | nil => simp
  | append_singleton digits c ih =>
    rw [toNat?_concat, Option.bind_eq_some_iff] at read
    obtain ⟨m, before, last⟩ := read
    intro c' member
    rcases List.mem_append.mp member with member | member
    · exact ih before c' member
    · rw [List.mem_singleton.mp member]
      cases value : value? c with
      | none => simp [extend?, value] at last
      | some d => rfl

theorem value?_hexDigit {n : Nat} (fits : n < 16) : value? (hexDigit n) = some n := by
  have all : ∀ n < 16, value? (hexDigit n) = some n := by decide
  exact all n fits

theorem toNat?_hex (width n : Nat) : toNat? 16 (hex width n) = some (n % 16 ^ width) := by
  induction width generalizing n with
  | zero => simp [hex, toNat?, Nat.mod_one]
  | succ width ih =>
    have last : n % 16 < 16 := Nat.mod_lt n (by decide)
    rw [hex, toNat?_concat, ih, Option.bind_some, extend?_of_value? (value?_hexDigit last) last,
      Nat.pow_succ', Nat.mod_mul, Nat.mul_comm, Nat.add_comm]

theorem length_hex (width n : Nat) : (hex width n).length = width := by
  induction width generalizing n with
  | zero => rfl
  | succ width ih => simp [hex, ih]

theorem value?_digitChar {n : Nat} (fits : n < 10) : value? n.digitChar = some n := by
  have all : ∀ n < 10, value? n.digitChar = some n := by decide
  exact all n fits

theorem toNat?_toDigits (n : Nat) : toNat? 10 (Nat.toDigits 10 n) = some n := by
  induction n using Nat.base_induction 10 (by decide) with
  | single n fits =>
    rw [Nat.toDigits_of_lt_base fits, ← List.nil_append [n.digitChar], toNat?_concat]
    simp [toNat?, extend?_of_value? (value?_digitChar fits) fits]
  | digit n d fits present ih =>
    rw [← Nat.toDigits_append_toDigits (by decide) present fits, Nat.toDigits_of_lt_base fits,
      toNat?_concat, ih, Option.bind_some, extend?_of_value? (value?_digitChar fits) fits, Nat.mul_comm]

theorem eq_zero_of_head?_toDigits {n : Nat} (zero : (Nat.toDigits 10 n).head? = some '0') : n = 0 := by
  induction n using Nat.base_induction 10 (by decide) with
  | single n fits =>
    have all : ∀ n < 10, n.digitChar = '0' → n = 0 := by decide
    rw [Nat.toDigits_of_lt_base fits] at zero
    exact all n fits (Option.some.inj zero)
  | digit n d fits present ih =>
    rw [← Nat.toDigits_append_toDigits (by decide) present fits,
      List.head?_append_of_ne_nil _ Nat.toDigits_ne_nil] at zero
    exact absurd (ih zero) present.ne'

theorem isDecimal_of_mem_toDigits {n : Nat} {c : Char} (member : c ∈ Nat.toDigits 10 n) :
    isDecimal c = true := by
  have digit := Nat.isDigit_of_mem_toDigits (by decide) (by decide) member
  simp only [Char.isDigit, Bool.and_eq_true, decide_eq_true_eq] at digit
  exact decide_eq_true digit

theorem toNat_bounds {c : Char} (digit : (value? c).isSome = true) : 0x30 ≤ c.toNat ∧ c.toNat ≤ 0x7A := by
  unfold value? at digit
  split_ifs at digit with decimal lower upper
  · exact ⟨decimal.1, le_trans (show c.toNat ≤ '9'.toNat from decimal.2) (by decide)⟩
  · exact ⟨le_trans (by decide) (show 'a'.toNat ≤ c.toNat from lower.1), lower.2⟩
  · exact ⟨le_trans (by decide) (show 'A'.toNat ≤ c.toNat from upper.1),
      le_trans (show c.toNat ≤ 'Z'.toNat from upper.2) (by decide)⟩
  · cases digit

theorem value?_toUpper (c : Char) : value? c.toUpper = value? c := by
  by_cases lower : 'a' ≤ c ∧ c ≤ 'z'
  · have bounds : 97 ≤ c.toNat ∧ c.toNat ≤ 122 := lower
    rw [← Char.ofNat_toNat c]
    generalize c.toNat = n at bounds
    obtain ⟨low, high⟩ := bounds
    interval_cases n <;> rfl
  · have unchanged : c.toUpper = c := by
      unfold Char.toUpper
      rw [dif_neg]
      exact lower
    rw [unchanged]

end Digits

namespace Text

theorem isBlank_eq_false {c : Char} (digit : (Digits.value? c).isSome = true) : isBlank c = false := by
  have bounds := Digits.toNat_bounds digit
  unfold isBlank
  simp only [Bool.or_eq_false_iff, Bool.and_eq_false_iff, decide_eq_false_iff_not]
  omega

theorem trim_eq {s : String} (digits : ∀ c ∈ s.toList, (Digits.value? c).isSome = true) : trim s = s := by
  have uncut : ∀ cs : List Char, (∀ c ∈ cs, (Digits.value? c).isSome = true) → cs.dropWhile isBlank = cs := by
    intro cs digits
    cases cs with
    | nil => rfl
    | cons c cs => rw [List.dropWhile_cons, isBlank_eq_false (digits c List.mem_cons_self)]; rfl
  rw [trim, trimList, uncut _ digits,
    uncut _ fun c member => digits c (List.mem_reverse.mp member), List.reverse_reverse, String.ofList_toList]

end Text

theorem Word.ofDecimal?_text (w : Word) : Word.ofDecimal? (Text.trim w.text) = some w := by
  have digits : w.text.toList = Nat.toDigits 10 w.toNat := by
    rw [Word.text, Nat.toString_eq_repr, Nat.toList_repr]
  have read := Digits.toNat?_toDigits w.toNat
  rw [Text.trim_eq (by rw [digits]; exact Digits.value?_isSome_of_toNat? read), Word.ofDecimal?, digits,
    Word.ofRadix?, List.filter_eq_self.mpr, read]
  · simp [Word.le_max]
  · intro c member
    simpa using fun same : c = '_' => Nat.underscore_not_in_toDigits (same ▸ member)

namespace Address

theorem length_nibbles (bytes : List UInt8) : (nibbles bytes).length = 2 * bytes.length := by
  simp [nibbles, List.length_flatMap, Nat.mul_comm]

theorem length_hash256 (message : List UInt8) : (Keccak.hash256 message).length = 32 := by
  simp [Keccak.hash256, Keccak.bytesOfLane, List.length_flatMap]

theorem map_value?_checksumDigits (a : Address) :
    a.checksumDigits.map Digits.value? = a.digits.map Digits.value? := by
  have unchanged : ∀ (digits : List Char) (marks : List Nat), digits.length ≤ marks.length →
      (List.zipWith (fun c nibble => if 8 ≤ nibble then c.toUpper else c) digits marks).map
        Digits.value? = digits.map Digits.value? := by
    intro digits
    induction digits with
    | nil => simp
    | cons c digits ih =>
      intro marks enough
      cases marks with
      | nil => simp at enough
      | cons mark marks =>
        have rest := ih marks (by simpa using enough)
        by_cases raised : 8 ≤ mark
        · simp [raised, rest, Digits.value?_toUpper]
        · simp [raised, rest]
  rw [checksumDigits, unchanged]
  rw [length_nibbles, length_hash256, digits, Digits.length_hex]
  decide

theorem toNat?_digits (a : Address) : Digits.toNat? 16 a.digits = some a.toNat := by
  rw [digits, Digits.toNat?_hex, Nat.mod_eq_of_lt (lt_of_lt_of_eq a.isLt (by decide))]

theorem digits_injective : Function.Injective digits := by
  intro a b same
  have values : some a.toNat = some b.toNat := by rw [← toNat?_digits, same, toNat?_digits]
  exact BitVec.eq_of_toNat_eq (Option.some.inj values)

theorem toNat?_checksumDigits (a : Address) : Digits.toNat? 16 a.checksumDigits = some a.toNat := by
  rw [Digits.toNat?_congr (map_value?_checksumDigits a), toNat?_digits]

theorem ofText?_checksum (a : Address) : ofText? (Text.trim a.checksum) = some a := by
  have chars : a.checksum.toList = '0' :: 'x' :: a.checksumDigits := by
    simp [checksum]
  have length : a.checksumDigits.length = 40 := by
    have same := congrArg List.length (map_value?_checksumDigits a)
    rwa [List.length_map, List.length_map, digits, Digits.length_hex] at same
  rw [Text.trim_eq, ofText?, chars, dropMark, ofDigits?, if_pos length, toNat?_checksumDigits]
  · simp
  · rw [chars]
    intro c member
    rcases List.mem_cons.mp member with rfl | member
    · rfl
    · rcases List.mem_cons.mp member with rfl | member
      · rfl
      · exact Digits.value?_isSome_of_toNat? (toNat?_checksumDigits a) c member

end Address

end SwapLoops
