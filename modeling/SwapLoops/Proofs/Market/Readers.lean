import SwapLoops.Proofs.Market.Eviction

/-! Readers and writers that take turns on a market. A reader copies what it asks for in
one section, and removes what it found expired in a later one. Between the two, states may
be delivered and other readers may come, at other moments. -/

namespace SwapLoops

namespace Market

inductive Query
  | one (key : Address)
  | all

def Query.Asks : Query → Address → Prop
  | one key, key' => key' = key
  | all, _ => True

def copy (m : Market) : Query → List (Address × Pair)
  | .one key => (m.entries[key]?.map (key, ·)).toList
  | .all => m.entries.toList

structure Reading where
  now : Seconds
  states : List Pair
  expired : List Address

def read (m : Market) (now : Seconds) (query : Query) : Reading where
  now := now
  states := ((m.copy query).filter (!m.isStaleAt now ·.2)).map Prod.snd
  expired := ((m.copy query).filter (m.isStaleAt now ·.2)).map Prod.fst

def finish (m : Market) (r : Reading) : Market := m.evict r.expired r.now

/-- A look at one key is its two sections with nothing between them. -/
theorem lookUp_eq (m : Market) (key : Address) (now : Seconds) :
    m.lookUp key now =
      ((m.read now (.one key)).states.head?, m.finish (m.read now (.one key))) := by
  unfold lookUp
  cases present : m.entries[key]? with
  | none => simp [read, copy, finish, present, evict]
  | some p => cases aged : m.isStaleAt now p <;> simp [read, copy, finish, present, aged, evict]

theorem sweep_eq (m : Market) (now : Seconds) :
    m.sweep now = ((m.read now .all).states, m.finish (m.read now .all)) := by
  simp only [sweep, live, states_eq, List.filter_map]
  rfl

section Copies

variable {m : Market} {query : Query} {now : Seconds} {key : Address} {p : Pair}

theorem mem_copy : (key, p) ∈ m.copy query ↔ query.Asks key ∧ m.entries[key]? = some p := by
  cases query with
  | one asked =>
    simp only [copy, Query.Asks, Option.mem_toList, Option.map_eq_some_iff, Prod.mk.injEq]
    constructor
    · rintro ⟨q, present, rfl, rfl⟩
      exact ⟨rfl, present⟩
    · rintro ⟨rfl, present⟩
      exact ⟨p, present, rfl, rfl⟩
  | all => simp [copy, Query.Asks]

theorem nodup_copy (m : Market) (query : Query) : ((m.copy query).map Prod.fst).Nodup := by
  cases query with
  | one asked => cases present : m.entries[asked]? <;> simp [copy, present]
  | all =>
    have distinct := @Std.ExtTreeMap.distinct_keys_toList _ _ _ m.entries _
    simpa only [copy, List.Nodup, List.pairwise_map, Std.LawfulEqCmp.compare_eq_iff_eq] using distinct

theorem states_read (m : Market) (now : Seconds) (query : Query) :
    ∃ kept : List (Address × Pair), (m.read now query).states = kept.map Prod.snd ∧
      (kept.map Prod.fst).Nodup ∧ ∀ (key : Address) (p : Pair), (key, p) ∈ kept ↔
        query.Asks key ∧ m.entries[key]? = some p ∧ m.isStaleAt now p = false := by
  refine ⟨(m.copy query).filter (!m.isStaleAt now ·.2), rfl, ?_, fun key p => ?_⟩
  · exact (nodup_copy m query).sublist (List.filter_sublist.map _)
  · rw [List.mem_filter, mem_copy, Bool.not_eq_true', and_assoc]

theorem mem_expired_read : key ∈ (m.read now query).expired ↔
    ∃ p, query.Asks key ∧ m.entries[key]? = some p ∧ m.isStaleAt now p = true := by
  simp [read, mem_copy, and_assoc]

theorem entries_finish (m : Market) (r : Reading) (key : Address) :
    (m.finish r).entries[key]? = m.entries[key]? ∨
      ∃ p, m.entries[key]? = some p ∧ m.isStaleAt r.now p = true ∧ (m.finish r).entries[key]? = none :=
  entries_evict_cases m r.expired r.now key

end Copies

/-- A market with the readings that are still to be finished. -/
structure Traffic where
  market : Market
  pending : List Reading

namespace Traffic

def idle (m : Market) : Traffic := ⟨m, []⟩

inductive Section
  | store (items : List (Address × Pair))
  | read (now : Seconds) (query : Query)
  | evict (reading : Reading)

def Section.Stores (key : Address) : Section → Prop
  | .store items => ∃ p, (key, p) ∈ items ∧ p.isNamed = true
  | _ => False

inductive Moves (t : Traffic) : Section → Traffic → Prop
  | store (items : List (Address × Pair)) :
      Moves t (.store items) { t with market := (t.market.deliverAll items).1 }
  | read (now : Seconds) (query : Query) :
      Moves t (.read now query) { t with pending := t.market.read now query :: t.pending }
  | evict {before after : List Reading} {reading : Reading}
      (waiting : t.pending = before ++ reading :: after) :
      Moves t (.evict reading) ⟨t.market.finish reading, before ++ after⟩

structure Step where
  before : Traffic
  act : Section
  after : Traffic

def Step.Removes (s : Step) (ttl : Seconds) (key : Address) : Prop :=
  ∃ reading p, s.act = .evict reading ∧ s.before.market.entries[key]? = some p ∧
    p.provenance.isStale reading.now ttl = true ∧ s.after.market.entries[key]? = none

inductive Runs (start : Traffic) : List Step → Traffic → Prop
  | nil : Runs start [] start
  | concat {steps : List Step} {t t' : Traffic} {act : Section}
      (run : Runs start steps t) (moves : t.Moves act t') : Runs start (steps ++ [⟨t, act, t'⟩]) t'

section Moving

variable {t t' : Traffic} {act : Section}

theorem Moves.ttl_eq (moves : t.Moves act t') : t'.market.ttl = t.market.ttl := by
  cases moves with
  | store items => exact ttl_deliverAll ..
  | read now query => rfl
  | evict waiting => exact ttl_evict ..

theorem Moves.finishes {reading : Reading} (moves : t.Moves (.evict reading) t') :
    reading ∈ t.pending ∧ t'.market = t.market.finish reading := by
  cases moves with
  | evict waiting => exact ⟨by simp [waiting], rfl⟩

theorem Moves.absent (moves : t.Moves act t') {key : Address}
    (absent : t'.market.entries[key]? = none) :
    t.market.entries[key]? = none ∧ ¬act.Stores key ∨ Step.Removes ⟨t, act, t'⟩ t.market.ttl key := by
  cases moves with
  | store items =>
    obtain ⟨before, unnamed⟩ := (entries_deliverAll_eq_none_iff _ _ _).mp absent
    refine Or.inl ⟨before, ?_⟩
    rintro ⟨p, sent, named⟩
    rw [unnamed p sent] at named
    cases named
  | read now query => exact Or.inl ⟨absent, id⟩
  | @evict _ _ reading waiting =>
    rcases entries_finish t.market reading key with same | ⟨p, present, aged, gone⟩
    · exact Or.inl ⟨same.symm.trans absent, id⟩
    · exact Or.inr ⟨reading, p, rfl, present, aged, gone⟩

end Moving

section Running

variable {m : Market} {start t : Traffic} {steps : List Step}

theorem Runs.ttl_eq (run : Runs start steps t) : t.market.ttl = start.market.ttl := by
  induction run with
  | nil => rfl
  | concat run moves ih => exact moves.ttl_eq.trans ih

theorem Runs.cut (run : Runs start steps t) {earlier later : List Step} {s : Step}
    (split : steps = earlier ++ s :: later) : Runs start earlier s.before ∧ s.before.Moves s.act s.after := by
  induction run generalizing later with
  | nil => simp at split
  | concat run moves ih =>
    rcases List.eq_nil_or_concat later with rfl | ⟨later, last, rfl⟩
    · obtain ⟨rfl, same⟩ := List.append_inj' split rfl
      cases same
      exact ⟨run, moves⟩
    · rw [List.concat_eq_append, ← List.cons_append, ← List.append_assoc] at split
      exact ih (List.append_inj' split rfl).1

theorem Runs.pending (run : Runs (idle m) steps t) :
    ∀ reading ∈ t.pending, ∃ s ∈ steps, ∃ query, s.act = .read reading.now query ∧
      reading = s.before.market.read reading.now query := by
  induction run with
  | nil => simp [idle]
  | @concat steps t t' act run moves ih =>
    have kept : ∀ reading ∈ t.pending, ∃ s ∈ steps ++ [⟨t, act, t'⟩], ∃ query,
        s.act = .read reading.now query ∧ reading = s.before.market.read reading.now query := by
      intro reading waiting
      obtain ⟨s, member, made⟩ := ih reading waiting
      exact ⟨s, List.mem_append_left _ member, made⟩
    cases moves with
    | store items => exact kept
    | read now query =>
      intro reading waiting
      rcases List.mem_cons.mp waiting with rfl | waiting
      · exact ⟨_, List.mem_append_right _ (List.mem_singleton_self _), query, rfl, rfl⟩
      · exact kept reading waiting
    | @evict before after _ waiting =>
      intro reading member
      apply kept
      rw [waiting]
      simp only [List.mem_append, List.mem_cons] at member ⊢
      tauto

/-- A key that is absent was never stored, or it was removed and not stored again. -/
theorem Runs.absent (run : Runs start steps t) {key : Address}
    (absent : t.market.entries[key]? = none) :
    start.market.entries[key]? = none ∧ (∀ s ∈ steps, ¬s.act.Stores key) ∨
      ∃ (earlier : List Step) (s : Step) (later : List Step), steps = earlier ++ s :: later ∧
        s.Removes start.market.ttl key ∧ ∀ s' ∈ later, ¬s'.act.Stores key := by
  induction run with
  -- Either the last step removes the key, or it leaves absent what was so before it.
  | nil => exact Or.inl ⟨absent, by simp⟩
  | @concat steps t t' act run moves ih =>
    rcases moves.absent absent with ⟨before, unstored⟩ | removes
    · rcases ih before with ⟨none, never⟩ | ⟨earlier, s, later, rfl, removes, never⟩
      · refine Or.inl ⟨none, ?_⟩
        simpa [or_imp, forall_and] using ⟨never, unstored⟩
      · refine Or.inr ⟨earlier, s, later ++ [⟨t, act, t'⟩], by simp, removes, ?_⟩
        simpa [or_imp, forall_and] using ⟨never, unstored⟩
    · exact Or.inr ⟨steps, _, [], rfl, run.ttl_eq ▸ removes, by simp⟩

/-- Whatever comes between the two sections of a reader, it returns what was live in its
copy, and removes only what is expired for it when it is removed. What it does not remove
is left as it was. -/
theorem runs_lose_no_live_entry (run : Runs (idle m) steps t) :
    (∀ s ∈ steps, ∀ (now : Seconds) (query : Query), s.act = .read now query →
      ∃ kept : List (Address × Pair), (s.before.market.read now query).states = kept.map Prod.snd ∧
        (kept.map Prod.fst).Nodup ∧ ∀ (key : Address) (p : Pair), (key, p) ∈ kept ↔
          query.Asks key ∧ s.before.market.entries[key]? = some p ∧
            p.provenance.isStale now m.ttl = false) ∧
    (∀ (earlier : List Step) (s : Step) (later : List Step) (reading : Reading),
      steps = earlier ++ s :: later → s.act = .evict reading →
        (∃ s' ∈ earlier, ∃ query, s'.act = .read reading.now query ∧
          reading = s'.before.market.read reading.now query) ∧
        ∀ key : Address,
          s.after.market.entries[key]? = s.before.market.entries[key]? ∨ s.Removes m.ttl key) ∧
    ∀ key : Address, t.market.entries[key]? = none →
      m.entries[key]? = none ∧ (∀ s ∈ steps, ¬s.act.Stores key) ∨
        ∃ (earlier : List Step) (s : Step) (later : List Step), steps = earlier ++ s :: later ∧
          s.Removes m.ttl key ∧ ∀ s' ∈ later, ¬s'.act.Stores key := by
  refine ⟨?copies, ?evictions, fun key absent => run.absent absent⟩
  case copies =>
    intro s member now query _
    obtain ⟨earlier, later, split⟩ := List.append_of_mem member
    have ttl : s.before.market.ttl = m.ttl := (run.cut split).1.ttl_eq
    rw [← ttl]
    exact states_read s.before.market now query
  case evictions =>
    intro earlier s later reading split evicts
    obtain ⟨before, moves⟩ := run.cut split
    rw [evicts] at moves
    obtain ⟨waiting, after⟩ := moves.finishes
    refine ⟨before.pending reading waiting, fun key => ?_⟩
    rw [after]
    refine (entries_finish s.before.market reading key).imp_right ?_
    rintro ⟨p, present, aged, gone⟩
    have ttl : s.before.market.ttl = m.ttl := before.ttl_eq
    exact ⟨reading, p, evicts, present, ttl ▸ aged, after ▸ gone⟩

end Running

/-! A reader finds two pairs expired, and one of them is refreshed before it comes back. -/

def lastRead (pair : Address) : Pair :=
  (Update.snapshot pair 0x70 0x71 1000 2000 none ⟨.endOf 8, 0⟩).toPair

def refresh : Pair := (Update.sync 0xaa 500 700 none ⟨⟨10, 0, 2⟩, 95⟩).toPair

def silent : Market := ((new 10).deliverPairs [lastRead 0xaa, lastRead 0xbb]).1

def refreshed : Market := (silent.deliverPairs [refresh]).1

def lateReading : Reading := silent.read 100 .all

def earlyReading : Reading := silent.read 5 (.one 0xbb)

def turns : List Step :=
  [⟨idle silent, .read 100 .all, ⟨silent, [lateReading]⟩⟩,
    ⟨⟨silent, [lateReading]⟩, .read 5 (.one 0xbb), ⟨silent, [earlyReading, lateReading]⟩⟩,
    ⟨⟨silent, [earlyReading, lateReading]⟩, .store [(0xaa, refresh)],
      ⟨refreshed, [earlyReading, lateReading]⟩⟩,
    ⟨⟨refreshed, [earlyReading, lateReading]⟩, .evict lateReading,
      ⟨refreshed.finish lateReading, [earlyReading]⟩⟩]

theorem runs_turns : Runs (idle silent) turns ⟨refreshed.finish lateReading, [earlyReading]⟩ :=
  (((Runs.nil.concat (.read 100 .all)).concat (.read 5 (.one 0xbb))).concat (.store _)).concat
    (@Moves.evict _ [earlyReading] [] lateReading rfl)

theorem entries_silent :
    silent.entries[(0xaa : Address)]? = some (lastRead 0xaa) ∧
      silent.entries[(0xbb : Address)]? = some (lastRead 0xbb) := by
  rw [silent, entries_new_deliverPairs, entries_new_deliverPairs]
  decide +kernel

theorem entries_refreshed :
    refreshed.entries[(0xaa : Address)]? = some ((lastRead 0xaa).join refresh) ∧
      refreshed.entries[(0xbb : Address)]? = some (lastRead 0xbb) := by
  rw [refreshed, entries_deliverPairs, entries_deliverPairs, entries_silent.1, entries_silent.2]
  decide +kernel

theorem entries_finish_refreshed :
    (refreshed.finish lateReading).entries[(0xbb : Address)]? = none := by
  have expired : (0xbb : Address) ∈ lateReading.expired :=
    mem_expired_read.mpr ⟨_, trivial, entries_silent.2, by decide +kernel⟩
  rw [finish, entries_evict, if_pos expired, entries_refreshed.2]
  decide +kernel

/-- The refreshed pair stays and the other one is removed, for it is expired. -/
theorem refreshed_pair_outlives_reader :
    Runs (idle silent) turns ⟨refreshed.finish lateReading, [earlyReading]⟩ ∧
      (refreshed.finish lateReading).entries[(0xaa : Address)]? =
        some ((lastRead 0xaa).join refresh) ∧
      ∃ s ∈ turns, s.Removes 10 0xbb := by
  obtain ⟨_, evictions, absences⟩ := runs_lose_no_live_entry runs_turns
  refine ⟨runs_turns, ?kept, ?removed⟩
  case kept =>
    rcases (evictions [_, _, _] _ [] lateReading rfl rfl).2 0xaa with same | ⟨_, p, evicts, present, aged, _⟩
    · exact same.trans entries_refreshed.1
    · cases evicts
      rw [entries_refreshed.1] at present
      cases present
      exact absurd aged (by decide +kernel)
  case removed =>
    rcases absences 0xbb entries_finish_refreshed with ⟨absent, _⟩ | ⟨earlier, s, later, split, removes, _⟩
    · rw [entries_silent.2] at absent
      cases absent
    · exact ⟨s, by simp [split], removes⟩

end Traffic

end Market

end SwapLoops
