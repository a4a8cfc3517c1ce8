import SwapLoops.Proofs.Json.Objects
import SwapLoops.Proofs.Pair.Persisted
import SwapLoops.Record

/-! A pair read back from its line. All is kept but where the parts of its state were
written: each of them passes for as new as the state. -/

namespace SwapLoops

namespace Record

theorem uint64?_toNat (n : UInt64) : uint64? (.int n.toNat) = some n := by
  simp [uint64?, n.toNat_lt_size]

theorem fee?_toNat (n : UInt32) : fee? (.int n.toNat) = some (some n) := by
  simp [fee?, n.toNat_lt_size]

theorem seconds?_toInt (s : Seconds) : seconds? (.int s.toInt) = some s := by
  rw [seconds?, if_pos ⟨s.minValue_le_toInt, s.toInt_le⟩, Int64.ofInt_toInt]

theorem ofFields?_members (r : Record) :
    ofFields? (r.members.map fun m => (m.1, m.2.value)) = some r := by
  obtain ⟨address, token0, token1, reserve0, reserve1, fee, failed, block, tx, log, observedAt⟩ := r
  cases fee with
  | none =>
    simp [ofFields?, required?, optional?, member?, isTag, members, Json.Token.value, text?, bool?,
      uint64?_toNat, seconds?_toInt]
  | some fee =>
    simp [ofFields?, required?, optional?, member?, isTag, members, Json.Token.value, text?, bool?,
      uint64?_toNat, seconds?_toInt, fee?_toNat]

theorem fits_of_lt {n : Nat} (small : n < UInt64.size) : (Json.Token.int n).Fits :=
  ⟨by omega, by exact_mod_cast small⟩

theorem ofLine_line (r : Record) : ofLine r.line = .ok r := by
  have members : ∀ m ∈ r.members, m.2.isScalar = true ∧ m.2.Fits := by
    intro m member
    simp only [Record.members, List.mem_append, List.mem_cons, List.not_mem_nil, or_false,
      Option.mem_toList, Option.map_eq_some_iff] at member
    rcases member with ((rfl | rfl | rfl | rfl | rfl | rfl) | ⟨fee, _, rfl⟩) | rfl | rfl | rfl | rfl | rfl
    case inl.inr => exact ⟨rfl, fits_of_lt (fee.toNat_lt_size.trans (by decide))⟩
    case inr.inr.inl => exact ⟨rfl, fits_of_lt r.block.toNat_lt_size⟩
    case inr.inr.inr.inl => exact ⟨rfl, fits_of_lt r.tx.toNat_lt_size⟩
    case inr.inr.inr.inr.inl => exact ⟨rfl, fits_of_lt r.log.toNat_lt_size⟩
    case inr.inr.inr.inr.inr =>
      exact ⟨rfl, r.observedAt.le_toInt, r.observedAt.toInt_lt.trans (by decide)⟩
    all_goals exact ⟨rfl, trivial⟩
  have read := Json.ofText?_write_object (fun m member => (members m member).1)
    fun m member => (members m member).2
  rw [ofLine, line, read, Option.bind_some, ofJson?, ofFields?_members]

theorem readAddress_checksum (field : String) (a : Address) : readAddress field a.checksum = .ok a := by
  rw [readAddress, Address.ofText?_checksum]

theorem readReserve_text (field : String) (w : Word) : readReserve field w.text = .ok w := by
  rw [readReserve, Word.ofDecimal?_text]

/-- Written from a pair, a record describes that pair again, or names the field for which
it describes none. -/
theorem toPair_ofPair (p : Pair) :
    (ofPair p).toPair =
      if p.address = 0 then .error (.address "address" p.address.checksum)
      else if p.reserve0 = 0 ∨ p.reserve1 = 0 then .error (.zeroReserve p.address.checksum)
      else .ok p.forgetEarlier := by
  obtain ⟨⟨⟩, address, token0, token1, reserve0, reserve1, fee, failed, provenance, earlier⟩ := p
  simp only [toPair, ofPair, readAddress_checksum, readReserve_text]
  by_cases unnamed : address = 0
  · show (if address = 0 then _ else _) = _
    rw [if_pos unnamed, if_pos unnamed]
    rfl
  · show (if address = 0 then _ else _) = _
    rw [if_neg unnamed, if_neg unnamed]
    by_cases empty : reserve0 = 0 ∨ reserve1 = 0
    · show (if reserve0 = 0 ∨ reserve1 = 0 then _ else _) = _
      rw [if_pos empty, if_pos empty]
      rfl
    · show (if reserve0 = 0 ∨ reserve1 = 0 then _ else _) = _
      rw [if_neg empty, if_neg empty]
      rfl

end Record

namespace Pair

def isRestorable (p : Pair) : Bool := p.address != 0 && p.reserve0 != 0 && p.reserve1 != 0

theorem isRestorable_iff {p : Pair} :
    p.isRestorable = true ↔ p.address ≠ 0 ∧ p.reserve0 ≠ 0 ∧ p.reserve1 ≠ 0 := by
  simp [isRestorable, and_assoc]

theorem ofLine_line (p : Pair) : ofLine p.line = (Record.ofPair p).toPair := by
  rw [ofLine, line, Record.ofLine_line]
  exact pure_bind (Record.ofPair p) Record.toPair

theorem toOption_ofLine_line (p : Pair) :
    (ofLine p.line).toOption = if p.isRestorable then some p.forgetEarlier else none := by
  rw [ofLine_line, Record.toPair_ofPair]
  by_cases unnamed : p.address = 0
  · simp [unnamed, isRestorable, Except.toOption]
  · by_cases empty : p.reserve0 = 0 ∨ p.reserve1 = 0
    · have refused : ¬p.isRestorable = true := by
        rw [isRestorable_iff]
        tauto
      rw [if_neg unnamed, if_pos empty, if_neg refused, Except.toOption]
    · have kept : p.isRestorable = true := by
        rw [isRestorable_iff]
        tauto
      rw [if_neg unnamed, if_neg empty, if_pos kept, Except.toOption]

end Pair

end SwapLoops
