import Mathlib
import SwapLoops.Fee

/-! Which syncs have a swap, and which of them decides the fee of its pair. Where the listed swaps
are at distinct places and each pair has one such sync at most, the order of the lists does not
matter. -/

namespace SwapLoops

theorem Position.next?_eq_some_iff {p q : Position} :
    p.next? = some q ↔ q.block = p.block ∧ q.tx = p.tx ∧ q.log.toNat = p.log.toNat + 1 := by
  obtain ⟨block, tx, log⟩ := q
  have last : p.log = -1 ↔ p.log.toNat + 1 = UInt64.size := by
    rw [← UInt64.toNat_inj]
    exact ⟨fun h => by rw [h]; rfl, fun h => Nat.succ_injective h⟩
  have bound := log.toNat_lt
  have size : UInt64.size = 2 ^ 64 := rfl
  unfold next?
  split_ifs with full
  · -- no log comes after the last one
    have top := last.mp full
    simp only [false_iff]
    rintro ⟨_, _, next⟩
    omega
  · have room : p.log.toNat + 1 < 2 ^ 64 := by
      have small := p.log.toNat_lt
      have other := mt last.mpr full
      omega
    have next : (p.log + 1).toNat = p.log.toNat + 1 := by
      rw [UInt64.toNat_add]
      exact Nat.mod_eq_of_lt room
    simp only [Option.some.injEq, Position.mk.injEq, ← next, UInt64.toNat_inj]
    constructor
    · rintro ⟨rfl, rfl, rfl⟩
      exact ⟨rfl, rfl, rfl⟩
    · rintro ⟨rfl, rfl, rfl⟩
      exact ⟨rfl, rfl, rfl⟩

namespace Fee

/-- The swap of a sync: it is in the log right after the sync, it was listed last of all that are
there, and it is a swap of the same pair. -/
structure IsSwapOf (swaps : List SwapEvent) (sync : SyncEvent) (swap : SwapEvent) : Prop where
  pair : swap.pair = sync.pair
  block : swap.provenance.position.block = sync.provenance.position.block
  tx : swap.provenance.position.tx = sync.provenance.position.tx
  log : swap.provenance.position.log.toNat = sync.provenance.position.log.toNat + 1
  last : ∃ front back, swaps = front ++ swap :: back ∧
    ∀ other ∈ back, other.provenance.position ≠ swap.provenance.position

variable {fee : SwapAmounts → Word → Word → UInt32} {swaps swaps' : List SwapEvent}
  {syncs syncs' : List SyncEvent} {sync : SyncEvent} {swap : SwapEvent} {at? : Position}
  {pair : Address} {paid : UInt32}

theorem swapAt?_eq_some_iff :
    swapAt? swaps at? = some swap ↔ swap.provenance.position = at? ∧
      ∃ front back, swaps = front ++ swap :: back ∧
        ∀ other ∈ back, other.provenance.position ≠ at? := by
  rw [swapAt?, List.find?_eq_some_iff_append, decide_eq_true_eq]
  refine and_congr_right fun _ => ?_
  constructor
  · rintro ⟨back, front, split, others⟩
    refine ⟨front.reverse, back.reverse, ?_, ?_⟩
    · rw [← List.reverse_reverse swaps, split, List.reverse_append, List.reverse_cons,
        List.append_assoc, List.singleton_append]
    · intro other member
      simpa using others other (List.mem_reverse.mp member)
  · rintro ⟨front, back, rfl, others⟩
    refine ⟨back.reverse, front.reverse, by simp, ?_⟩
    intro other member
    simpa using others other (List.mem_reverse.mp member)

theorem swapOf?_eq_some_iff : swapOf? swaps sync = some swap ↔ IsSwapOf swaps sync swap := by
  simp only [swapOf?, Option.bind_eq_bind, Option.bind_eq_some_iff, Position.next?_eq_some_iff,
    swapAt?_eq_some_iff, Option.ite_none_right_eq_some, Option.some.injEq]
  constructor
  · rintro ⟨_, ⟨block, tx, log⟩, _, ⟨rfl, last⟩, same, rfl⟩
    exact ⟨same, block, tx, log, last⟩
  · rintro ⟨same, block, tx, log, last⟩
    exact ⟨_, ⟨block, tx, log⟩, swap, ⟨rfl, last⟩, same, rfl⟩

theorem swapOf?_eq_none_iff : swapOf? swaps sync = none ↔ ∀ swap, ¬IsSwapOf swaps sync swap := by
  simp only [Option.eq_none_iff_forall_ne_some, ne_eq, swapOf?_eq_some_iff]

def said (fee : SwapAmounts → Word → Word → UInt32) (swaps : List SwapEvent) (pair : Address)
    (sync : SyncEvent) : Option UInt32 :=
  if sync.pair = pair then
    (swapOf? swaps sync).map fun swap => fee swap.amounts sync.reserve0 sync.reserve1
  else none

theorem said_eq_some_iff :
    said fee swaps pair sync = some paid ↔ sync.pair = pair ∧
      ∃ swap, IsSwapOf swaps sync swap ∧ fee swap.amounts sync.reserve0 sync.reserve1 = paid := by
  simp only [said, Option.ite_none_right_eq_some, Option.map_eq_some_iff, swapOf?_eq_some_iff]

theorem said_eq_none_iff :
    said fee swaps pair sync = none ↔
      (sync.pair = pair → ∀ swap, ¬IsSwapOf swaps sync swap) := by
  unfold said
  split_ifs with same
  · rw [Option.map_eq_none_iff, swapOf?_eq_none_iff, forall_prop_of_true same]
  · exact iff_of_true rfl fun same' => absurd same' same

def noteSync (fee : SwapAmounts → Word → Word → UInt32) (swaps : List SwapEvent) (fees : Table)
    (sync : SyncEvent) : Table :=
  match swapOf? swaps sync with
  | some swap => fees.insertIfNew sync.pair (fee swap.amounts sync.reserve0 sync.reserve1)
  | none => fees

theorem pairUp_eq_foldl : pairUp fee swaps syncs = syncs.foldl (noteSync fee swaps) ∅ := rfl

theorem getElem?_insertIfNew (fees : Table) (key : Address) (paid : UInt32) :
    (fees.insertIfNew key paid)[pair]? = fees[pair]?.or (if key = pair then some paid else none) := by
  simp only [Std.ExtTreeMap.getElem?_insertIfNew, Std.LawfulEqCmp.compare_eq_iff_eq,
    Std.ExtTreeMap.mem_iff_isSome_getElem?]
  by_cases same : key = pair
  · subst same
    cases fees[key]? with
    | none => simp
    | some held => simp
  · simp [same]

theorem getElem?_noteSync (fees : Table) :
    (noteSync fee swaps fees sync)[pair]? = fees[pair]?.or (said fee swaps pair sync) := by
  unfold noteSync said
  cases swapOf? swaps sync with
  | none => simp
  | some swap => exact getElem?_insertIfNew fees _ _

theorem getElem?_foldl_noteSync (fees : Table) :
    (syncs.foldl (noteSync fee swaps) fees)[pair]? =
      fees[pair]?.or (syncs.findSome? (said fee swaps pair)) := by
  induction syncs generalizing fees with
  | nil => simp
  | cons sync syncs ih =>
    rw [List.foldl_cons, ih, getElem?_noteSync, List.findSome?_cons, Option.or_assoc]
    cases said fee swaps pair sync with
    | none => rfl
    | some paid => rfl

/-- The first sync that says anything about a pair decides. -/
theorem getElem?_pairUp :
    (pairUp fee swaps syncs)[pair]? = syncs.findSome? (said fee swaps pair) := by
  rw [pairUp_eq_foldl, getElem?_foldl_noteSync, Std.ExtTreeMap.getElem?_empty, Option.none_or]

theorem getElem?_pairUp_eq_some_iff :
    (pairUp fee swaps syncs)[pair]? = some paid ↔
      ∃ front sync back swap, syncs = front ++ sync :: back ∧ sync.pair = pair ∧
        IsSwapOf swaps sync swap ∧
        (∀ earlier ∈ front, earlier.pair = pair → ∀ other, ¬IsSwapOf swaps earlier other) ∧
        fee swap.amounts sync.reserve0 sync.reserve1 = paid := by
  rw [getElem?_pairUp, List.findSome?_eq_some_iff]
  simp only [said_eq_some_iff, said_eq_none_iff]
  constructor
  · rintro ⟨front, sync, back, split, ⟨same, swap, isSwap, rfl⟩, silent⟩
    exact ⟨front, sync, back, swap, split, same, isSwap, silent, rfl⟩
  · rintro ⟨front, sync, back, swap, split, same, isSwap, silent, rfl⟩
    exact ⟨front, sync, back, split, ⟨same, swap, isSwap, rfl⟩, silent⟩

theorem mem_pairUp_iff :
    pair ∈ pairUp fee swaps syncs ↔
      ∃ sync ∈ syncs, sync.pair = pair ∧ ∃ swap, IsSwapOf swaps sync swap := by
  rw [Std.ExtTreeMap.mem_iff_isSome_getElem?, getElem?_pairUp, List.findSome?_isSome_iff]
  simp only [Option.isSome_iff_exists, said_eq_some_iff]
  constructor
  · rintro ⟨sync, listed, _, same, swap, isSwap, _⟩
    exact ⟨sync, listed, same, swap, isSwap⟩
  · rintro ⟨sync, listed, same, swap, isSwap⟩
    exact ⟨sync, listed, _, same, swap, isSwap, rfl⟩

section Order

theorem swapAt?_eq_some_iff_mem
    (distinct : (swaps.map fun swap => swap.provenance.position).Nodup) :
    swapAt? swaps at? = some swap ↔ swap ∈ swaps ∧ swap.provenance.position = at? := by
  rw [swapAt?_eq_some_iff]
  constructor
  · rintro ⟨here, front, back, rfl, _⟩
    exact ⟨by simp, here⟩
  · rintro ⟨listed, rfl⟩
    obtain ⟨front, back, rfl⟩ := List.append_of_mem listed
    refine ⟨rfl, front, back, rfl, fun other member same => ?_⟩
    rw [List.map_append, List.map_cons] at distinct
    have fresh := (List.nodup_cons.mp distinct.of_append_right).1
    exact fresh (List.mem_map.mpr ⟨other, member, same⟩)

theorem swapAt?_of_perm (perm : swaps'.Perm swaps)
    (distinct : (swaps.map fun swap => swap.provenance.position).Nodup) :
    swapAt? swaps' at? = swapAt? swaps at? := by
  have distinct' := (perm.map fun swap => swap.provenance.position).nodup_iff.mpr distinct
  ext swap
  rw [swapAt?_eq_some_iff_mem distinct', swapAt?_eq_some_iff_mem distinct, perm.mem_iff]

theorem pairUp_of_perm_swaps (perm : swaps'.Perm swaps)
    (distinct : (swaps.map fun swap => swap.provenance.position).Nodup) :
    pairUp fee swaps' syncs = pairUp fee swaps syncs := by
  have same : swapOf? swaps' = swapOf? swaps := by
    funext sync
    simp only [swapOf?, swapAt?_of_perm perm distinct]
  rw [pairUp, same, pairUp]

def Single (swaps : List SwapEvent) (syncs : List SyncEvent) : Prop :=
  ∀ sync ∈ syncs, ∀ sync' ∈ syncs, sync.pair = sync'.pair →
    (∃ swap, IsSwapOf swaps sync swap) → (∃ swap, IsSwapOf swaps sync' swap) → sync = sync'

theorem exists_isSwapOf_iff :
    (∃ swap, IsSwapOf swaps sync swap) ↔ (swapOf? swaps sync).isSome = true := by
  simp only [Option.isSome_iff_exists, swapOf?_eq_some_iff]

instance (swaps : List SwapEvent) (syncs : List SyncEvent) : Decidable (Single swaps syncs) :=
  decidable_of_iff (∀ sync ∈ syncs, ∀ sync' ∈ syncs, sync.pair = sync'.pair →
      (swapOf? swaps sync).isSome = true → (swapOf? swaps sync').isSome = true → sync = sync')
    (by simp only [Single, exists_isSwapOf_iff])

theorem getElem?_pairUp_of_single (single : Single swaps syncs) :
    (pairUp fee swaps syncs)[pair]? = some paid ↔
      ∃ sync ∈ syncs, said fee swaps pair sync = some paid := by
  rw [getElem?_pairUp]
  constructor
  · exact List.exists_of_findSome?_eq_some
  · rintro ⟨sync, listed, here⟩
    obtain ⟨same, swap, isSwap, _⟩ := said_eq_some_iff.mp here
    obtain ⟨first, found⟩ := Option.isSome_iff_exists.mp
      (List.findSome?_isSome_iff.mpr ⟨sync, listed, Option.isSome_of_eq_some here⟩)
    obtain ⟨sync', listed', here'⟩ := List.exists_of_findSome?_eq_some found
    obtain ⟨same', swap', isSwap', _⟩ := said_eq_some_iff.mp here'
    obtain rfl := single sync listed sync' listed' (same.trans same'.symm) ⟨swap, isSwap⟩
      ⟨swap', isSwap'⟩
    rw [found, ← here', here]

theorem pairUp_of_perm_syncs (perm : syncs'.Perm syncs) (single : Single swaps syncs) :
    pairUp fee swaps syncs' = pairUp fee swaps syncs := by
  have single' : Single swaps syncs' := fun sync listed sync' listed' =>
    single sync (perm.mem_iff.mp listed) sync' (perm.mem_iff.mp listed')
  apply Std.ExtTreeMap.ext_getElem?
  intro pair
  ext paid
  rw [getElem?_pairUp_of_single single', getElem?_pairUp_of_single single]
  simp only [perm.mem_iff]

end Order

/-- A pair gets a fee just if one of its syncs has a swap, and the first such sync gives it. The
order of swaps at distinct places does not matter, nor does the order of the syncs if no pair has
two with a swap. -/
theorem pairUp_takes_first_sync (fee : SwapAmounts → Word → Word → UInt32)
    (swaps : List SwapEvent) (syncs : List SyncEvent) :
    (∀ pair, pair ∈ pairUp fee swaps syncs ↔
      ∃ sync ∈ syncs, sync.pair = pair ∧ ∃ swap, IsSwapOf swaps sync swap) ∧
    (∀ pair paid, (pairUp fee swaps syncs)[pair]? = some paid ↔
      ∃ front sync back swap, syncs = front ++ sync :: back ∧ sync.pair = pair ∧
        IsSwapOf swaps sync swap ∧
        (∀ earlier ∈ front, earlier.pair = pair → ∀ other, ¬IsSwapOf swaps earlier other) ∧
        fee swap.amounts sync.reserve0 sync.reserve1 = paid) ∧
    (∀ swaps', swaps'.Perm swaps → (swaps.map fun swap => swap.provenance.position).Nodup →
      pairUp fee swaps' syncs = pairUp fee swaps syncs) ∧
    ∀ syncs', syncs'.Perm syncs → Single swaps syncs →
      pairUp fee swaps syncs' = pairUp fee swaps syncs := by
  refine ⟨fun pair => mem_pairUp_iff, fun pair paid => getElem?_pairUp_eq_some_iff, ?_, ?_⟩
  · exact fun swaps' perm distinct => pairUp_of_perm_swaps perm distinct
  · exact fun syncs' perm single => pairUp_of_perm_syncs perm single

def sampleSwaps : List SwapEvent :=
  [⟨0xa1, ⟨10, 0, 0, 9⟩, ⟨⟨5, 1, 4⟩, 0⟩⟩, ⟨0xa2, ⟨0, 7, 6, 0⟩, ⟨⟨5, 2, 8⟩, 0⟩⟩,
    ⟨0xa1, ⟨3, 0, 0, 2⟩, ⟨⟨6, 0, 0⟩, 0⟩⟩]

/-- The first pair has a sync in the last log there can be, one before a swap of the other pair,
and one before its own swap. -/
def sampleSyncs : List SyncEvent :=
  [⟨0xa1, 1, 1, ⟨⟨6, 0, -1⟩, 0⟩⟩, ⟨0xa1, 1, 2, ⟨⟨5, 2, 7⟩, 0⟩⟩, ⟨0xa1, 40, 50, ⟨⟨5, 1, 3⟩, 0⟩⟩,
    ⟨0xa2, 60, 70, ⟨⟨5, 2, 7⟩, 0⟩⟩]

def sampleFee (swap : SwapAmounts) (reserve0 _reserve1 : Word) : UInt32 :=
  .ofNat (swap.in0.toNat + reserve0.toNat)

theorem sampleLogs_pair_up :
    (sampleSwaps.map fun swap => swap.provenance.position).Nodup ∧
      Single sampleSwaps sampleSyncs ∧
      (pairUp sampleFee sampleSwaps sampleSyncs)[(0xa1 : Address)]? = some 50 ∧
      0xa2 ∈ pairUp sampleFee sampleSwaps sampleSyncs ∧
      pairUp sampleFee sampleSwaps.reverse sampleSyncs = pairUp sampleFee sampleSwaps sampleSyncs ∧
      pairUp sampleFee sampleSwaps sampleSyncs.reverse =
        pairUp sampleFee sampleSwaps sampleSyncs := by
  have distinct : (sampleSwaps.map fun swap => swap.provenance.position).Nodup := by decide
  have single : Single sampleSwaps sampleSyncs := by decide
  obtain ⟨known, first, swapOrder, syncOrder⟩ :=
    pairUp_takes_first_sync sampleFee sampleSwaps sampleSyncs
  have first' := (first 0xa1 50).mpr ⟨sampleSyncs.take 2, _, _, _, rfl, rfl,
    swapOf?_eq_some_iff.mp (by rfl), ?_, by decide⟩
  · exact ⟨distinct, single, first',
      (known 0xa2).mpr ⟨⟨0xa2, 60, 70, ⟨⟨5, 2, 7⟩, 0⟩⟩, by decide, rfl,
        exists_isSwapOf_iff.mpr (by decide)⟩,
      swapOrder _ (List.reverse_perm _) distinct, syncOrder _ (List.reverse_perm _) single⟩
  · intro earlier member _
    exact swapOf?_eq_none_iff.mp (by revert earlier; decide)

end Fee

end SwapLoops
