import Mathlib
import SwapLoops.Json.Lexer
import SwapLoops.Json.Writer
import SwapLoops.Proofs.Text.Numbers

/-! Tokens read back from the text that they are written as. Only two numbers in a row
would run together. -/

namespace SwapLoops.Json

theorem lexText_escapeChar (c : Char) (rest : List Char) :
    lexText (escapeChar c ++ rest) = (lexText rest).map fun (cs, after) => (c :: cs, after) := by
  unfold escapeChar
  split
  · simp [lexText, shortEscape?]
  · simp [lexText, shortEscape?]
  · simp [lexText, shortEscape?]
  · simp [lexText, shortEscape?]
  · simp [lexText, shortEscape?]
  · simp [lexText, shortEscape?]
  · simp [lexText, shortEscape?]
  · split_ifs with control
    · have read := Digits.toNat?_hex 4 c.toNat
      have unit : isTrailUnit c.toNat = false ∧ isLeadUnit c.toNat = false := by
        simp only [isTrailUnit, isLeadUnit, Bool.and_eq_false_iff, decide_eq_false_iff_not]
        omega
      rw [Nat.mod_eq_of_lt (by omega)] at read
      simp only [Digits.hex, List.nil_append, List.cons_append] at read ⊢
      rw [lexText.eq_3, read, Option.bind_eq_bind, Option.bind_some, unit.1, unit.2, Char.ofNat_toNat]
      rfl
    · rw [List.singleton_append, lexText.eq_def]
      split
      all_goals simp_all

theorem lexText_writeText (cs rest : List Char) :
    lexText (cs.flatMap escapeChar ++ '"' :: rest) = some (cs, rest) := by
  induction cs with
  | nil => rw [List.flatMap_nil, List.nil_append, lexText]
  | cons c cs ih => rw [List.flatMap_cons, List.append_assoc, lexText_escapeChar, ih]; rfl

def Token.isNumber : Token → Bool
  | .int _ => true
  | .real => true
  | _ => false

def Token.Fits : Token → Prop
  | .int n => -(UInt64.size / 2 : Nat) ≤ n ∧ n < UInt64.size
  | _ => True

/-- Text that a number before it does not run into. -/
def Ends (cs : List Char) : Prop :=
  ∀ c ∈ cs.head?, Digits.isDecimal c = false ∧ c ≠ '.' ∧ c ≠ 'e' ∧ c ≠ 'E'

section Numbers

variable {rest : List Char} (ends : Ends rest)

include ends

theorem takeWhile_digits {digits : List Char} (decimal : ∀ c ∈ digits, Digits.isDecimal c = true) :
    (digits ++ rest).takeWhile Digits.isDecimal = digits ∧
      (digits ++ rest).dropWhile Digits.isDecimal = rest := by
  have stops : rest.takeWhile Digits.isDecimal = [] ∧ rest.dropWhile Digits.isDecimal = rest := by
    cases rest with
    | nil => exact ⟨rfl, rfl⟩
    | cons c rest => simp [(ends c rfl).1]
  rw [List.takeWhile_append_of_pos decimal, List.dropWhile_append_of_pos decimal, stops.1, stops.2,
    List.append_nil]
  exact ⟨rfl, rfl⟩

theorem lexFraction_of_ends : lexFraction rest = some (none, rest) := by
  unfold lexFraction
  split
  · exact absurd rfl (ends '.' rfl).2.1
  · rfl

theorem lexExponent_of_ends : lexExponent rest = some (none, rest) := by
  unfold lexExponent
  split
  all_goals first
    | rfl
    | exact absurd rfl (ends 'e' rfl).2.2.1
    | exact absurd rfl (ends 'E' rfl).2.2.2

theorem lexNumber_toDigits (negative : Bool) (n : Nat) :
    lexNumber negative (Nat.toDigits 10 n ++ rest) =
      (wholeToken? negative (Nat.toDigits 10 n)).map fun token => (token, rest) := by
  obtain ⟨taken, left⟩ := takeWhile_digits ends fun c => @Digits.isDecimal_of_mem_toDigits n c
  have sound : ¬(Nat.toDigits 10 n = [] ∨
      (Nat.toDigits 10 n).head? = some '0' ∧ 1 < (Nat.toDigits 10 n).length) := by
    rintro (empty | ⟨zero, long⟩)
    · exact Nat.toDigits_ne_nil empty
    · rw [Digits.eq_zero_of_head?_toDigits zero] at long
      exact absurd long (by decide)
  rw [lexNumber, taken, left, if_neg sound, lexFraction_of_ends ends, Option.bind_eq_bind,
    Option.bind_some]
  simp only [lexExponent_of_ends ends]
  cases wholeToken? negative (Nat.toDigits 10 n) <;> rfl

end Numbers

theorem lexToken_of_isDecimal {c : Char} (decimal : Digits.isDecimal c = true) (cs : List Char) :
    lexToken (c :: cs) = lexNumber false (c :: cs) := by
  unfold lexToken
  split
  all_goals first
    | rfl
    | (rename_i same; injection same with same; subst same; exact absurd decimal (by decide))

theorem lexToken_toDigits {rest : List Char} (ends : Ends rest) {n : Nat} (fits : n < UInt64.size) :
    lexToken (Nat.toDigits 10 n ++ rest) = some (.int n, rest) := by
  have number := lexNumber_toDigits ends false n
  cases digits : Nat.toDigits 10 n with
  | nil => exact absurd digits Nat.toDigits_ne_nil
  | cons c cs =>
    have decimal : Digits.isDecimal c = true :=
      Digits.isDecimal_of_mem_toDigits (digits ▸ List.mem_cons_self)
    rw [List.cons_append, lexToken_of_isDecimal decimal, ← List.cons_append, ← digits, number, wholeToken?,
      Digits.toNat?_toDigits]
    simp [fits]

theorem writeToken_int (n : Int) : writeToken (.int n) =
    if 0 ≤ n then Nat.toDigits 10 n.toNat else '-' :: Nat.toDigits 10 (-n).toNat := by
  rw [writeToken, Int.toString_eq_repr, Int.repr_eq_if]
  split_ifs
  · exact Nat.toList_repr
  · rw [String.toList_append, Nat.toList_repr]
    rfl

theorem lexToken_writeToken {t : Token} {rest : List Char} (fits : t.Fits)
    (ends : t.isNumber = true → Ends rest) : lexToken (writeToken t ++ rest) = some (t, rest) := by
  cases t with
  | int n =>
    have ends := ends rfl
    obtain ⟨low, high⟩ := fits
    rw [writeToken_int]
    split_ifs with positive
    · rw [lexToken_toDigits ends (by omega), Int.toNat_of_nonneg positive]
    · rw [List.cons_append, lexToken, lexNumber_toDigits ends, wholeToken?, Digits.toNat?_toDigits]
      have within : 0 < (-n).toNat ∧ (-n).toNat ≤ UInt64.size / 2 := by omega
      simp only [↓reduceIte, within, and_self, Option.map_some]
      rw [Int.toNat_of_nonneg (by omega), neg_neg]
  | real =>
    have ends := ends rfl
    obtain ⟨taken, left⟩ := @takeWhile_digits rest ends ['0'] (by simp [Digits.isDecimal])
    have fraction : lexFraction ('.' :: (['0'] ++ rest)) = some (some ['0'], rest) := by
      rw [lexFraction, taken, left]
      rfl
    have whole : (writeToken .real ++ rest).takeWhile Digits.isDecimal = ['0'] := rfl
    have behind : (writeToken .real ++ rest).dropWhile Digits.isDecimal = '.' :: (['0'] ++ rest) := rfl
    have zero : real? ['0'] ['0'] 0 = some .real := by
      simp [real?, scaled, takeDigits, inRealRange]
    change lexNumber false (writeToken .real ++ rest) = _
    rw [lexNumber, whole, behind, fraction]
    simp [lexExponent_of_ends ends, zero]
  | text s =>
    rw [writeToken, writeText, List.cons_append, List.cons_append, List.append_assoc,
      List.singleton_append, lexToken, lexText_writeText]
    simp
  | bool b => cases b <;> rfl
  | _ => rfl

theorem le_toNat_of_mem_digits {radix n : Nat} {digits : List Char}
    (read : Digits.toNat? radix digits = some n) {c : Char} (member : c ∈ digits) : 0x20 ≤ c.toNat :=
  le_trans (by decide) (Digits.toNat_bounds (Digits.value?_isSome_of_toNat? read c member)).1

theorem le_toNat_of_mem_escapeChar {c c' : Char} (member : c' ∈ escapeChar c) : 0x20 ≤ c'.toNat := by
  unfold escapeChar at member
  split at member
  case h_8 =>
    split_ifs at member with control
    · rcases List.mem_cons.mp member with rfl | member
      · decide
      · rcases List.mem_cons.mp member with rfl | member
        · decide
        · exact le_toNat_of_mem_digits (Digits.toNat?_hex 4 c.toNat) member
    · rw [List.mem_singleton.mp member]
      exact not_lt.mp control
  all_goals
    rcases List.mem_cons.mp member with rfl | member
    · decide
    · rw [List.mem_singleton.mp member]
      decide

theorem le_toNat_of_mem_writeToken {t : Token} {c : Char} (member : c ∈ writeToken t) :
    0x20 ≤ c.toNat := by
  cases t with
  | int n =>
    rw [writeToken_int] at member
    split_ifs at member
    · exact le_toNat_of_mem_digits (Digits.toNat?_toDigits _) member
    · rcases List.mem_cons.mp member with rfl | member
      · decide
      · exact le_toNat_of_mem_digits (Digits.toNat?_toDigits _) member
  | text s =>
    rw [writeToken, writeText, List.cons_append, List.mem_cons, List.mem_append, List.mem_flatMap,
      List.mem_singleton] at member
    rcases member with rfl | ⟨c', _, escaped⟩ | rfl
    · decide
    · exact le_toNat_of_mem_escapeChar escaped
    · decide
  | bool b => cases b <;> (fin_cases member <;> decide)
  | _ => fin_cases member <;> decide

/-- No token begins with a blank, and only a number can go on with a number before it. -/
theorem writeToken_eq_cons (t : Token) :
    ∃ c cs, writeToken t = c :: cs ∧ isSpace c = false ∧
      (t.isNumber = false → ∀ rest, Ends (c :: rest)) := by
  cases t with
  | int n =>
    rw [writeToken_int]
    split_ifs
    · cases digits : Nat.toDigits 10 n.toNat with
      | nil => exact absurd digits Nat.toDigits_ne_nil
      | cons c cs =>
        have decimal : Digits.isDecimal c = true :=
          Digits.isDecimal_of_mem_toDigits (digits ▸ List.mem_cons_self)
        refine ⟨c, cs, rfl, ?_, fun other => by cases other⟩
        by_contra space
        simp only [isSpace, Bool.not_eq_false, Bool.or_eq_true, decide_eq_true_eq] at space
        rcases space with ((rfl | rfl) | rfl) | rfl <;> exact absurd decimal (by decide)
    · exact ⟨'-', _, rfl, rfl, fun other => by cases other⟩
  | bool b => cases b <;> exact ⟨_, _, rfl, rfl, fun _ rest c head => by cases head; decide⟩
  | real => exact ⟨'0', _, rfl, rfl, fun other => by cases other⟩
  | _ => exact ⟨_, _, rfl, rfl, fun _ rest c head => by cases head; decide⟩

theorem lex_writeToken {t : Token} {rest : List Char} (fits : t.Fits)
    (ends : t.isNumber = true → Ends rest) :
    lex (writeToken t ++ rest) = (lex rest).map fun ts => t :: ts := by
  have read := lexToken_writeToken fits ends
  obtain ⟨c, cs, written, visible, _⟩ := writeToken_eq_cons t
  rw [written, List.cons_append] at read ⊢
  rw [lex, if_neg (by simp [visible]), read]
  have shorter : rest.length < (c :: (cs ++ rest)).length := by
    simp only [List.length_cons, List.length_append]
    omega
  simp only [shorter, ↓reduceDIte]

/-- Tokens are read back as they were written, if no number follows another one. -/
theorem lex_write {ts : List Token} (fit : ∀ t ∈ ts, t.Fits)
    (apart : ts.IsChain fun t t' => t.isNumber = true → t'.isNumber = false) :
    lex (write ts).toList = some ts := by
  rw [write, String.toList_ofList]
  induction ts with
  | nil => rw [List.flatMap_nil, lex]
  | cons t ts ih =>
    have ends : t.isNumber = true → Ends (ts.flatMap writeToken) := by
      intro number
      cases ts with
      | nil => exact fun c head => by cases head
      | cons t' ts =>
        obtain ⟨c, cs, written, _, clear⟩ := writeToken_eq_cons t'
        rw [List.flatMap_cons, written, List.cons_append]
        exact clear (List.isChain_cons_cons.mp apart |>.1 number) _
    rw [List.flatMap_cons, lex_writeToken (fit t List.mem_cons_self) ends,
      ih (fun t member => fit t (List.mem_cons_of_mem _ member)) apart.of_cons]
    rfl

end SwapLoops.Json
