import SwapLoops.Proofs.Market.Convergence
import SwapLoops.Proofs.Snapshot.Files

/-! A market that is written to a file, and the file restored into another market. The
file does not keep where the parts of a state were written. An update that falls between
a part of a stored state and the position of that state is hidden by the file, and that is
all that can go wrong. -/

namespace SwapLoops

namespace Market

section Restored

variable {us vs vs' : List Update} {ttl : Seconds}

theorem named_of_entries {ps : List Pair} {key : Address} {p : Pair}
    (written : ∀ p ∈ addressed key ps, p.earlier = .none)
    (present : ((new ttl).deliverPairs ps).1.entries[key]? = some p) : p.address = key ∧ key ≠ 0 := by
  have leaves := entries_leaves ttl written
  rw [present] at leaves
  have settled := leaves.settled_of_some
  obtain ⟨u, member, _⟩ := settled.top
  obtain ⟨_, named, here⟩ := mem_addressed.mp member
  exact ⟨(settled.address u member).symm.trans here, here ▸ named⟩

theorem entries_of_leaves {ps qs : List Pair} {key : Address} {current : Option Pair}
    (consistent : Pair.Consistent qs) (same : ∀ p, p ∈ addressed key ps ↔ p ∈ qs)
    (leaves : Pair.Leaves qs current) : ((new ttl).deliverPairs ps).1.entries[key]? = current := by
  have written : ∀ p ∈ addressed key ps, p.earlier = .none := fun p member =>
    consistent.written p ((same p).mp member)
  exact ((entries_leaves ttl written).congr same).unique leaves consistent

theorem mem_addressed_restored (written : ∀ u ∈ us, u.toPair.earlier = .none) {key : Address} {x : Pair} :
    x ∈ addressed key (vs.map Update.toPair ++
        (((new ttl).deliverUpdates us).1.states.map Pair.forgetEarlier ++ vs'.map Update.toPair)) ↔
      x ∈ (((new ttl).deliverUpdates us).1.entries[key]?.map Pair.forgetEarlier).toList ++
        addressed key ((vs ++ vs').map Update.toPair) := by
  have named : ∀ (key : Address) (p : Pair),
      ((new ttl).deliverUpdates us).1.entries[key]? = some p → p.address = key ∧ key ≠ 0 := by
    intro key p present
    apply named_of_entries _ present
    intro p member
    obtain ⟨u, source, rfl⟩ := List.mem_map.mp (mem_addressed.mp member).1
    exact written u source
  simp only [mem_addressed, List.map_append, List.mem_append, Option.mem_toList, Option.map_eq_some_iff]
  constructor
  · rintro ⟨old | stored | new, named', here⟩
    · exact Or.inr ⟨Or.inl old, named', here⟩
    · obtain ⟨p, member, rfl⟩ := List.mem_map.mp stored
      obtain ⟨key', present⟩ := mem_states.mp member
      have same : key' = key := (named key' p present).1.symm.trans here
      exact Or.inl ⟨p, same ▸ present, rfl⟩
    · exact Or.inr ⟨Or.inr new, named', here⟩
  · rintro (⟨p, present, rfl⟩ | ⟨old | new, named', here⟩)
    · obtain ⟨here, named'⟩ := named key p present
      refine ⟨Or.inr (Or.inl (List.mem_map.mpr ⟨p, mem_states.mpr ⟨key, present⟩, rfl⟩)), ?_, here⟩
      rwa [← here] at named'
    · exact ⟨Or.inl old, named', here⟩
    · exact ⟨Or.inr (Or.inr new), named', here⟩

theorem addressed_apart (apart : ∀ u ∈ us, ∀ v ∈ vs, u.address = v.address →
    u.toPair.provenance.position ≠ v.toPair.provenance.position) (key : Address) :
    ∀ p ∈ addressed key (us.map Update.toPair), ∀ q ∈ addressed key (vs.map Update.toPair),
      p.provenance.position ≠ q.provenance.position := by
  intro p member q member'
  obtain ⟨delivered, _, here⟩ := mem_addressed.mp member
  obtain ⟨delivered', _, here'⟩ := mem_addressed.mp member'
  obtain ⟨u, source, rfl⟩ := List.mem_map.mp delivered
  obtain ⟨v, source', rfl⟩ := List.mem_map.mp delivered'
  rw [Update.address_toPair] at here here'
  exact apart u source v source' (here.trans here'.symm)

theorem deliver_between (m : Market) (ps : List Pair) :
    (((m.deliverUpdates vs).1.deliverPairs ps).1.deliverUpdates vs').1 =
      (m.deliverPairs (vs.map Update.toPair ++ (ps ++ vs'.map Update.toPair))).1 := by
  rw [deliverPairs_append, deliverPairs_append]
  rfl

variable {ttl' : Seconds} (consistent : Update.Consistent (us ++ (vs ++ vs')))
  (apart : ∀ u ∈ us, ∀ v ∈ vs ++ vs', u.address = v.address →
    u.toPair.provenance.position ≠ v.toPair.provenance.position)

include consistent apart

/-- A market that takes up the kept states between two lots of updates, compared with one
to which all updates were delivered. -/
theorem entries_restored_iff (key : Address) :
    ((((new ttl').deliverUpdates vs).1.deliverPairs
        (((new ttl).deliverUpdates us).1.states.map Pair.forgetEarlier)).1.deliverUpdates vs').1.entries[key]?.map
          Pair.forgetEarlier =
      ((new ttl').deliverUpdates (us ++ (vs ++ vs'))).1.entries[key]?.map Pair.forgetEarlier ↔
    ∀ p ∈ ((new ttl).deliverUpdates us).1.entries[key]?,
      ∀ q ∈ ((new ttl').deliverUpdates (vs ++ vs')).1.entries[key]?, ¬p.Hides q := by
  have written : ∀ u ∈ us, u.toPair.earlier = .none := fun u member =>
    consistent.written u (List.mem_append_left _ member)
  have together : Pair.Consistent
      (addressed key (us.map Update.toPair) ++ addressed key ((vs ++ vs').map Update.toPair)) := by
    rw [← addressed_append, ← List.map_append]
    exact consistent.addressed key
  have before := together.mono fun u => List.mem_append_left _
  have behind := together.mono fun u => List.mem_append_right _
  have apart' := addressed_apart apart key
  have leaves : Pair.Leaves _ ((new ttl).deliverUpdates us).1.entries[key]? :=
    entries_leaves ttl before.written
  have leaves' : Pair.Leaves _ ((new ttl').deliverUpdates (vs ++ vs')).1.entries[key]? :=
    entries_leaves ttl' behind.written
  have onePair : ∀ p ∈ ((new ttl).deliverUpdates us).1.entries[key]?,
      ∀ q ∈ ((new ttl').deliverUpdates (vs ++ vs')).1.entries[key]?, p.address = q.address :=
    fun p present q present' => (named_of_entries before.written present).1.trans
      (named_of_entries behind.written present').1.symm
  have onePair' : ∀ p ∈ ((new ttl).deliverUpdates us).1.entries[key]?.map Pair.forgetEarlier,
      ∀ q ∈ ((new ttl').deliverUpdates (vs ++ vs')).1.entries[key]?, p.address = q.address := by
    intro p member
    obtain ⟨current, present, rfl⟩ := Option.mem_map.mp member
    exact onePair current present
  have kept := leaves.consistent_keep together apart'
  have direct : ((new ttl').deliverUpdates (us ++ (vs ++ vs'))).1.entries[key]? =
      Option.merge Pair.join ((new ttl).deliverUpdates us).1.entries[key]?
        ((new ttl').deliverUpdates (vs ++ vs')).1.entries[key]? := by
    apply entries_of_leaves together _ (leaves.join leaves' onePair)
    intro p
    rw [List.map_append, addressed_append]
  rw [deliver_between, direct, entries_of_leaves kept (fun p => mem_addressed_restored written)
    (leaves.keep.join leaves' onePair')]
  exact leaves.merge_keep_iff together apart' leaves' onePair

end Restored

end Market

namespace Snapshot

open Market

open Update (fullRead failedRead laterSync)

variable {us : List Update} {ttl : Seconds}

theorem restore_of_write (written : ∀ u ∈ us, u.toPair.earlier = .none)
    (liquid : ∀ p ∈ ((new ttl).deliverUpdates us).1.states, p.reserve0 ≠ 0 ∧ p.reserve1 ≠ 0)
    {path : Path} {t t' : FileTree} {count : Nat}
    (saved : write FileTree.system path ((new ttl).deliverUpdates us).1.states t = (.ok count, t'))
    (m : Market) :
    restore FileTree.system path m t' =
      (.ok (m.deliverPairs (((new ttl).deliverUpdates us).1.states.map Pair.forgetEarlier)), t') := by
  have named : ∀ p ∈ ((new ttl).deliverUpdates us).1.states, p.address ≠ 0 := by
    intro p member
    obtain ⟨key, present⟩ := mem_states.mp member
    obtain ⟨here, named⟩ := named_of_entries (fun p member => by
      obtain ⟨u, source, rfl⟩ := List.mem_map.mp (mem_addressed.mp member).1
      exact written u source) present
    rwa [here]
  rw [restore, FileTree.bind_apply, load_of_write named liquid saved]
  rfl

/-- For each pair, a market that restores the file between two lots of updates ends with
what the updates leave when all of them are delivered, just if the stored state hides no
part of what the two lots come to. -/
theorem restore_eq_deliver_iff {ttl' : Seconds} {vs vs' : List Update}
    (consistent : Update.Consistent (us ++ (vs ++ vs')))
    (apart : ∀ u ∈ us, ∀ v ∈ vs ++ vs', u.address = v.address →
      u.toPair.provenance.position ≠ v.toPair.provenance.position)
    (liquid : ∀ p ∈ ((new ttl).deliverUpdates us).1.states, p.reserve0 ≠ 0 ∧ p.reserve1 ≠ 0)
    {path : Path} {t t' : FileTree} {count : Nat}
    (saved : write FileTree.system path ((new ttl).deliverUpdates us).1.states t = (.ok count, t')) :
    ∃ m changed,
      restore FileTree.system path ((new ttl').deliverUpdates vs).1 t' = (.ok (m, changed), t') ∧
      ∀ key : Address,
        (m.deliverUpdates vs').1.entries[key]?.map Pair.forgetEarlier =
            ((new ttl').deliverUpdates (us ++ (vs ++ vs'))).1.entries[key]?.map Pair.forgetEarlier ↔
          ∀ p ∈ ((new ttl).deliverUpdates us).1.entries[key]?,
            ∀ q ∈ ((new ttl').deliverUpdates (vs ++ vs')).1.entries[key]?, ¬p.Hides q := by
  have written : ∀ u ∈ us, u.toPair.earlier = .none := fun u member =>
    consistent.written u (List.mem_append_left _ member)
  exact ⟨_, _, restore_of_write written liquid saved _, entries_restored_iff consistent apart⟩

/-- A sync of a later block survives the file of a failed read, and so does the read. -/
theorem later_sync_survives_restore :
    Update.Consistent ([fullRead, failedRead] ++ ([laterSync] ++ [])) ∧
    (∀ u ∈ [fullRead, failedRead], ∀ v ∈ [laterSync] ++ [], u.address = v.address →
      u.toPair.provenance.position ≠ v.toPair.provenance.position) ∧
    (∀ p ∈ ((new 0).deliverUpdates [fullRead, failedRead]).1.states,
      p.reserve0 ≠ 0 ∧ p.reserve1 ≠ 0) ∧
    ∃ count t m changed,
      write FileTree.system "pairs" ((new 0).deliverUpdates [fullRead, failedRead]).1.states ∅ =
        (.ok count, t) ∧
      restore FileTree.system "pairs" ((new 0).deliverUpdates [laterSync]).1 t = (.ok (m, changed), t) ∧
      ∀ key : Address, m.entries[key]?.map Pair.forgetEarlier =
        ((new 0).deliverUpdates [fullRead, failedRead, laterSync]).1.entries[key]?.map
          Pair.forgetEarlier := by
  have consistent : Update.Consistent ([fullRead, failedRead] ++ ([laterSync] ++ [])) := by
    decide +kernel
  have apart : ∀ u ∈ [fullRead, failedRead], ∀ v ∈ [laterSync] ++ [], u.address = v.address →
      u.toPair.provenance.position ≠ v.toPair.provenance.position := by decide
  have liquid : ∀ p ∈ ((new 0).deliverUpdates [fullRead, failedRead]).1.states,
      p.reserve0 ≠ 0 ∧ p.reserve1 ≠ 0 := by decide +kernel
  have clear : ∀ p ∈ ((new 0).deliverUpdates [fullRead, failedRead]).1.states,
      ∀ q ∈ ((new 0).deliverUpdates ([laterSync] ++ [])).1.states, ¬p.Hides q := by decide +kernel
  obtain ⟨t, saved⟩ := exists_saved ((new 0).deliverUpdates [fullRead, failedRead]).1.states
  obtain ⟨m, changed, restored, same⟩ :=
    @restore_eq_deliver_iff _ 0 0 [laterSync] [] consistent apart liquid _ _ _ _ saved
  refine ⟨consistent, apart, liquid, _, t, m, changed, saved, restored, fun key => ?_⟩
  exact (same key).mpr fun p present q present' =>
    clear p (mem_states.mpr ⟨key, present⟩) q (mem_states.mpr ⟨key, present'⟩)

def syncBetween : Update := .sync 0xaa 500 700 none ⟨⟨9, 0, 0⟩, 0⟩

/-- The file of the failed read passes the older reserves for those of its block. -/
theorem file_hides_sync :
    Update.Consistent [fullRead, failedRead, syncBetween] ∧ ∃ count t m changed,
    write FileTree.system "pairs" ((new 0).deliverUpdates [fullRead, failedRead]).1.states ∅ =
      (.ok count, t) ∧
    restore FileTree.system "pairs" ((new 0).deliverUpdates [syncBetween]).1 t = (.ok (m, changed), t) ∧
    m.entries[(0xaa : Address)]?.map (fun p => (p.reserve0, p.reserve1)) = some (1000, 2000) ∧
    ((new 0).deliverUpdates [fullRead, failedRead, syncBetween]).1.entries[(0xaa : Address)]?.map
      (fun p => (p.reserve0, p.reserve1)) = some (500, 700) := by
  have written : ∀ u ∈ [fullRead, failedRead], u.toPair.earlier = .none := by decide
  have liquid : ∀ p ∈ ((new 0).deliverUpdates [fullRead, failedRead]).1.states,
      p.reserve0 ≠ 0 ∧ p.reserve1 ≠ 0 := by decide +kernel
  obtain ⟨t, saved⟩ := exists_saved ((new 0).deliverUpdates [fullRead, failedRead]).1.states
  exact ⟨by decide +kernel, _, t, _, _, saved, restore_of_write written liquid saved _,
    by decide +kernel, by decide +kernel⟩

end Snapshot

end SwapLoops
