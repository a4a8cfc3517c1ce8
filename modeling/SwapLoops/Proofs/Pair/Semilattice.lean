import SwapLoops.Proofs.Pair.Reach

/-! Joins of states that do not contradict one another. Such states are told apart by how far
they have come, so their joins obey the laws of a maximum: they may be taken in any order, in
any grouping and more than once. -/

namespace SwapLoops

namespace Part

variable {α : Type}

def Agrees (part : Part α) (ps : List Pair) : Prop :=
  ∀ p ∈ ps, ∀ q ∈ ps, ∀ writtenAt ∈ part.since p, part.since q = some writtenAt →
    part.value p = part.value q

instance [DecidableEq α] (part : Part α) (ps : List Pair) : Decidable (part.Agrees ps) :=
  inferInstanceAs (Decidable (∀ p ∈ ps, ∀ q ∈ ps, ∀ writtenAt ∈ part.since p,
    part.since q = some writtenAt → part.value p = part.value q))

variable {part : Part α} {ps : List Pair} {p q : Pair}

theorem agrees_iff : part.Agrees ps ↔
    ∀ e ∈ ps.map part.entry, ∀ e' ∈ ps.map part.entry, e.rank = e'.rank → e = e' := by
  simp only [List.forall_mem_map, rank_entry]
  constructor
  · intro agrees p member q member' same
    unfold entry
    cases written : part.since q with
    | none => rw [same, written]; rfl
    | some writtenAt =>
      rw [same, written, agrees p member q member' writtenAt (same.trans written) written]
  · intro alone p member q member' writtenAt written written'
    have same := alone p member q member' (written.trans written'.symm)
    rw [value_eq_entry, same, ← value_eq_entry]

theorem Agrees.entry_eq (agrees : part.Agrees ps) (left : p ∈ ps) (right : q ∈ ps)
    (same : (part.entry p).rank = (part.entry q).rank) : part.entry p = part.entry q :=
  agrees_iff.mp agrees _ (List.mem_map_of_mem left) _ (List.mem_map_of_mem right) same

theorem Agrees.cons_join (agrees : part.Agrees ps) (datedLeft : part.Dated p)
    (datedRight : part.Dated q) (left : p ∈ ps) (right : q ∈ ps) :
    part.Agrees (p.join q :: ps) := by
  have among : ∀ e ∈ (p.join q :: ps).map part.entry, e ∈ ps.map part.entry := by
    intro e member
    rcases List.mem_cons.mp member with rfl | member
    · rw [entry_join datedLeft datedRight (agrees.entry_eq left right)]
      split_ifs
      · exact List.mem_map_of_mem right
      · exact List.mem_map_of_mem left
    · exact member
  exact agrees_iff.mpr fun e member e' member' =>
    agrees_iff.mp agrees e (among e member) e' (among e' member')

end Part

namespace Pair

/-- States of one pair that do not contradict one another. Where they wrote a part at one
position they agree on it, all known identities are the same, and a state that does not know
its tokens names none. -/
structure Coherent (ps : List Pair) : Prop where
  address : ∀ p ∈ ps, ∀ q ∈ ps, p.address = q.address
  reserves : Part.reserves.Agrees ps
  fee : Part.fee.Agrees ps
  status : Part.status.Agrees ps
  identity : ∀ p ∈ ps, ∀ q ∈ ps, p.knowsTokens = true → q.knowsTokens = true → p.tokens = q.tokens
  unknown : ∀ p ∈ ps, p.knowsTokens = false → p.tokens = (0, 0)

instance (ps : List Pair) : Decidable (Coherent ps) :=
  decidable_of_iff
    ((∀ p ∈ ps, ∀ q ∈ ps, p.address = q.address) ∧
      (Part.reserves.Agrees ps ∧ Part.fee.Agrees ps ∧ Part.status.Agrees ps) ∧
      (∀ p ∈ ps, ∀ q ∈ ps, p.knowsTokens = true → q.knowsTokens = true → p.tokens = q.tokens) ∧
      ∀ p ∈ ps, p.knowsTokens = false → p.tokens = (0, 0))
    ⟨fun ⟨address, ⟨reserves, fee, status⟩, identity, unknown⟩ =>
        ⟨address, reserves, fee, status, identity, unknown⟩,
      fun ⟨address, reserves, fee, status, identity, unknown⟩ =>
        ⟨address, ⟨reserves, fee, status⟩, identity, unknown⟩⟩

variable {ps : List Pair} {a b c p q : Pair}

theorem tokens_join (p q : Pair) : (p.join q).tokens = p.tokens ∨ (p.join q).tokens = q.tokens := by
  have sources : ∀ newer older : Pair, (joinOrdered newer older).tokens = newer.tokens ∨
      (joinOrdered newer older).tokens = older.tokens := by
    intro newer older
    rw [tokens_joinOrdered]
    rcases identitySource_cases (newer.laterPart_fst older statusSince) with
      ⟨_, same | same⟩ | ⟨same, _⟩
    · exact Or.inl (by rw [same])
    · exact Or.inr (by rw [same])
    · exact Or.inl (by rw [same])
  rcases join_cases p q with ⟨joined, _⟩ | ⟨joined, _⟩
  · rw [joined]
    exact (sources q p).symm
  · rw [joined]
    exact sources p q

theorem address_join (same : p.address = q.address) : (p.join q).address = p.address := by
  rcases join_cases p q with ⟨joined, _⟩ | ⟨joined, _⟩
  · rw [joined]
    exact same.symm
  · rw [joined]
    rfl

namespace Coherent

theorem exists_tokens_cons_join (left : p ∈ ps) (right : q ∈ ps) :
    ∀ r ∈ p.join q :: ps, ∃ r' ∈ ps, r.tokens = r'.tokens := by
  intro r member
  rcases List.mem_cons.mp member with rfl | member
  · rcases tokens_join p q with same | same
    · exact ⟨p, left, same⟩
    · exact ⟨q, right, same⟩
  · exact ⟨r, member, rfl⟩

theorem cons_join (coherent : Coherent ps) (datedLeft : p.Dated) (datedRight : q.Dated)
    (left : p ∈ ps) (right : q ∈ ps) : Coherent (p.join q :: ps) where
  address := by
    have here : ∀ r ∈ p.join q :: ps, r.address = p.address := by
      intro r member
      rcases List.mem_cons.mp member with rfl | member
      · exact address_join (coherent.address p left q right)
      · exact coherent.address r member p left
    exact fun r member r' member' => (here r member).trans (here r' member').symm
  reserves := coherent.reserves.cons_join datedLeft.reserves datedRight.reserves left right
  fee := coherent.fee.cons_join datedLeft.fee datedRight.fee left right
  status := coherent.status.cons_join datedLeft.status datedRight.status left right
  identity := by
    intro r member r' member' known known'
    obtain ⟨s, source, same⟩ := exists_tokens_cons_join left right r member
    obtain ⟨s', source', same'⟩ := exists_tokens_cons_join left right r' member'
    rw [knowsTokens_congr same] at known
    rw [knowsTokens_congr same'] at known'
    rw [same, same', coherent.identity s source s' source' known known']
  unknown := by
    intro r member unknown
    obtain ⟨s, source, same⟩ := exists_tokens_cons_join left right r member
    rw [knowsTokens_congr same] at unknown
    rw [same, coherent.unknown s source unknown]

/-- Coherent states that have come equally far are one state. -/
theorem eq_of_reach_eq (coherent : Coherent ps) (datedLeft : p.Dated) (datedRight : q.Dated)
    (left : p ∈ ps) (right : q ∈ ps) (same : p.reach = q.reach) : p = q := by
  simp only [reach, Prod.mk.injEq] at same
  obtain ⟨ranked, reserves, fee, status, knows⟩ := same
  have provenance := Provenance.rank_injective ranked
  have tokens : p.tokens = q.tokens := by
    cases known : p.knowsTokens with
    | false => rw [coherent.unknown p left known, coherent.unknown q right (knows ▸ known)]
    | true => exact coherent.identity p left q right known (knows ▸ known)
  apply ext_parts (coherent.address p left q right) tokens provenance
  · exact Part.parts_eq_of_entry_eq datedLeft.reserves datedRight.reserves provenance
      (coherent.reserves.entry_eq left right reserves)
  · exact Part.parts_eq_of_entry_eq datedLeft.fee datedRight.fee provenance
      (coherent.fee.entry_eq left right fee)
  · exact Part.parts_eq_of_entry_eq datedLeft.status datedRight.status provenance
      (coherent.status.entry_eq left right status)

/-- Joins of coherent states may be repeated, swapped and regrouped, and what they make is
coherent with all the states again. -/
theorem join_semilattice (coherent : Coherent ps) (dated : ∀ p ∈ ps, p.Dated)
    (first : a ∈ ps) (second : b ∈ ps) (third : c ∈ ps) :
    a.join a = a ∧ a.join b = b.join a ∧ (a.join b).join c = a.join (b.join c) ∧
      (a.join b).Dated ∧ Coherent (a.join b :: ps) := by
  have datedA := dated a first
  have datedB := dated b second
  have datedC := dated c third
  have joined := coherent.cons_join datedA datedB first second
  refine ⟨(join_eq_left_iff datedA datedA).mpr le_rfl, ?comm, ?assoc, datedA.join datedB, joined⟩
  case comm =>
    have both := joined.cons_join datedB datedA (List.mem_cons_of_mem _ second)
      (List.mem_cons_of_mem _ first)
    apply both.eq_of_reach_eq (datedA.join datedB) (datedB.join datedA) (by simp) (by simp)
    rw [reach_join datedA datedB, reach_join datedB datedA, sup_comm]
  case assoc =>
    have inner := joined.cons_join datedB datedC (List.mem_cons_of_mem _ second)
      (List.mem_cons_of_mem _ third)
    have left := inner.cons_join (datedA.join datedB) datedC (by simp) (by simp [third])
    have both := left.cons_join datedA (datedB.join datedC) (by simp [first]) (by simp)
    apply both.eq_of_reach_eq ((datedA.join datedB).join datedC)
      (datedA.join (datedB.join datedC)) (by simp) (by simp)
    rw [reach_join (datedA.join datedB) datedC, reach_join datedA datedB,
      reach_join datedA (datedB.join datedC), reach_join datedB datedC, sup_assoc]

/-! A full read, a later read that failed on top of it, and a sync after both. -/

def readInFull : Pair := ⟨.uniswapV2, 0xaa, 0x70, 0x71, 1000, 2000, some 25, false, ⟨.endOf 8, 0⟩, .none⟩

def failedSince : Pair :=
  readInFull.join ⟨.uniswapV2, 0xaa, 0, 0, 0, 0, none, true, ⟨.endOf 9, 0⟩, .none⟩

def synced : Pair := ⟨.uniswapV2, 0xaa, 0, 0, 500, 700, none, false, ⟨⟨10, 0, 2⟩, 0⟩, .none⟩

/-- The failed state took its reserves from the full read, and all three come to one state. -/
theorem joins_of_failed_read :
    Coherent [readInFull, failedSince, synced] ∧
      (∀ p ∈ [readInFull, failedSince, synced], p.Dated) ∧
      (readInFull.join failedSince).join synced = readInFull.join (failedSince.join synced) ∧
      readInFull.join failedSince = failedSince.join readInFull := by
  have coherent : Coherent [readInFull, failedSince, synced] := by decide +kernel
  have read : readInFull.Dated := dated_of_written rfl
  have dated : ∀ p ∈ [readInFull, failedSince, synced], p.Dated := by
    intro p member
    simp only [List.mem_cons, List.not_mem_nil, or_false] at member
    rcases member with rfl | rfl | rfl
    · exact read
    · exact read.join (dated_of_written rfl)
    · exact dated_of_written rfl
  obtain ⟨_, swapped, regrouped, _⟩ := coherent.join_semilattice dated List.mem_cons_self
    (List.mem_cons_of_mem _ List.mem_cons_self)
    (List.mem_cons_of_mem _ (List.mem_cons_of_mem _ List.mem_cons_self))
  exact ⟨coherent, dated, regrouped, swapped⟩

end Coherent

end Pair

end SwapLoops
