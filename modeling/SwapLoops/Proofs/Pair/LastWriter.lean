import SwapLoops.Proofs.ChainOrder

/-! What each part of a state holds, with the position it was written at. Joining
two states keeps, part by part, the entry that was written later. -/

namespace SwapLoops

abbrev Entry (α : Type) := Option (Position × α)

namespace Entry

variable {α : Type}

def rank : Entry α → WithBot Position
  | some (writtenAt, _) => writtenAt
  | none => ⊥

/-- The entry written later. The first one wins a tie. -/
def later : Entry α → Entry α → Entry α
  | some n, some o => if n.1 < o.1 then some o else some n
  | none, older => older
  | newer, none => newer

theorem rank_later (newer older : Entry α) :
    (later newer older).rank = max newer.rank older.rank := by
  cases newer with
  | none => simp [later, rank]
  | some n =>
    cases older with
    | none => simp [later, rank]
    | some o =>
      by_cases below : n.1 < o.1
      · simp [later, rank, below, below.le]
      · simp [later, rank, below, not_lt.mp below]

theorem later_eq_or (newer older : Entry α) :
    later newer older = newer ∨ later newer older = older := by
  cases newer with
  | none => exact Or.inr rfl
  | some n =>
    cases older with
    | none => exact Or.inl rfl
    | some o => by_cases below : n.1 < o.1 <;> simp [later, below]

theorem later_eq_left {newer older : Entry α} (ranked : older.rank ≤ newer.rank) :
    later newer older = newer := by
  cases newer with
  | none =>
    cases older with
    | none => rfl
    | some o => exact absurd ranked (by simp [rank])
  | some n =>
    cases older with
    | none => rfl
    | some o => simp [later, not_lt.mpr (WithBot.coe_le_coe.mp ranked)]

theorem later_eq_right {newer older : Entry α} (ranked : newer.rank < older.rank) :
    later newer older = older := by
  cases newer with
  | none => cases older <;> rfl
  | some n =>
    cases older with
    | none => exact absurd ranked (by simp [rank])
    | some o => simp [later, WithBot.coe_lt_coe.mp ranked]

theorem rank_eq_bot {e : Entry α} : e.rank = ⊥ ↔ e = none := by
  cases e with
  | none => simp [rank]
  | some written => simp [rank]

def IsLatest (e : Entry α) (written : List (Entry α)) : Prop :=
  (e = none ∨ e ∈ written) ∧ ∀ w ∈ written, w.rank ≤ e.rank

theorem isLatest_single (e : Entry α) : IsLatest e [e] := by
  simp [IsLatest]

theorem isLatest_later {newer older : Entry α} {written written' : List (Entry α)}
    (first : IsLatest newer written) (second : IsLatest older written') :
    IsLatest (later newer older) (written ++ written') := by
  constructor
  · rcases later_eq_or newer older with same | same
    · rw [same]
      exact first.1.imp_right (List.mem_append_left _)
    · rw [same]
      exact second.1.imp_right (List.mem_append_right _)
  · intro w member
    rw [rank_later]
    rcases List.mem_append.mp member with member | member
    · exact (first.2 w member).trans (le_max_left _ _)
    · exact (second.2 w member).trans (le_max_right _ _)

theorem isLatest_congr {e : Entry α} {written written' : List (Entry α)}
    (same : ∀ w, w ∈ written ↔ w ∈ written') : IsLatest e written ↔ IsLatest e written' := by
  simp only [IsLatest, same]

/-- Where no two entries that differ were written at one position, the last is unique. -/
theorem isLatest_unique {e e' : Entry α} {written : List (Entry α)}
    (distinct : ∀ w ∈ written, ∀ w' ∈ written, w.rank = w'.rank → w = w')
    (first : IsLatest e written) (second : IsLatest e' written) : e = e' := by
  have atMost : ∀ {a b : Entry α}, IsLatest a written → IsLatest b written → a.rank ≤ b.rank := by
    intro a b latest other
    rcases latest.1 with absent | member
    · rw [absent]
      exact bot_le
    · exact other.2 a member
  have same : e.rank = e'.rank := le_antisymm (atMost first second) (atMost second first)
  rcases first.1 with absent | member
  · have absent' : e' = none := by rw [← rank_eq_bot, ← same, rank_eq_bot, absent]
    rw [absent, absent']
  · rcases second.1 with absent' | member'
    · rw [absent', ← rank_eq_bot, same, rank_eq_bot, absent']
    · exact distinct e member e' member' same

end Entry

/-- A part of a state, by what it holds and where that is noted. The position of the
state stands for a part that is carried and not noted. -/
structure Part (α : Type) where
  value : Pair → α
  blank : α
  noted : Pair → Option Position
  carried : Pair → Bool
  since : Pair → Option Position
  since_eq : ∀ p, since p = (noted p <|> if carried p then some p.provenance.position else none)
  value_eq_blank : ∀ p, carried p = false → value p = blank
  value_joinOrdered : ∀ newer older,
    value (Pair.joinOrdered newer older) = value (Pair.laterPart newer older since).1
  noted_joinOrdered : ∀ newer older, noted (Pair.joinOrdered newer older) =
    (Pair.laterPart newer older since).2.filter (· != newer.provenance.position)
  carried_joinOrdered : ∀ newer older, carried (Pair.laterPart newer older since).1 = true →
    carried (Pair.joinOrdered newer older) = true
  absent_joinOrdered : ∀ newer older, carried newer = false → carried older = false →
    carried (Pair.joinOrdered newer older) = false

namespace Part

variable {α : Type} (part : Part α)

def entry (p : Pair) : Entry α := (part.since p).map fun writtenAt => (writtenAt, part.value p)

def Dated (p : Pair) : Prop := ∀ writtenAt ∈ part.noted p, writtenAt < p.provenance.position

variable {part}

theorem rank_entry (p : Pair) : (part.entry p).rank = part.since p := by
  unfold entry
  cases part.since p with
  | none => rfl
  | some writtenAt => rfl

theorem since_of_noted {p : Pair} {writtenAt : Position} (noted : part.noted p = some writtenAt) :
    part.since p = some writtenAt := by
  rw [part.since_eq, noted]
  rfl

theorem since_of_unnoted {p : Pair} (unnoted : part.noted p = none) :
    part.since p = if part.carried p then some p.provenance.position else none := by
  rw [part.since_eq, unnoted]
  rfl

theorem carried_of_since_eq_none {p : Pair} (unwritten : part.since p = none) :
    part.carried p = false := by
  cases noted : part.noted p with
  | some earlier => rw [since_of_noted noted] at unwritten; cases unwritten
  | none =>
    rw [since_of_unnoted noted] at unwritten
    by_contra carried
    simp [carried] at unwritten

theorem value_eq_entry (p : Pair) : part.value p = (part.entry p).elim part.blank Prod.snd := by
  cases written : part.since p with
  | none =>
    rw [entry, written, part.value_eq_blank p (carried_of_since_eq_none written)]
    rfl
  | some writtenAt =>
    rw [entry, written]
    rfl

theorem since_le_position {p : Pair} (dated : part.Dated p) {writtenAt : Position}
    (written : part.since p = some writtenAt) : writtenAt ≤ p.provenance.position := by
  cases noted : part.noted p with
  | some earlier =>
    rw [since_of_noted noted, Option.some.injEq] at written
    subst written
    exact (dated earlier (Option.mem_def.mpr noted)).le
  | none =>
    rw [since_of_unnoted noted] at written
    split_ifs at written
    exact (Option.some.inj written).ge

theorem carried_of_since_eq {p : Pair} (dated : part.Dated p)
    (written : part.since p = some p.provenance.position) : part.carried p = true := by
  cases noted : part.noted p with
  | some earlier =>
    rw [since_of_noted noted, Option.some.injEq] at written
    exact absurd written (dated earlier (Option.mem_def.mpr noted)).ne
  | none =>
    rw [since_of_unnoted noted] at written
    split_ifs at written with carried
    exact carried

theorem since_eq_entry (p : Pair) : part.since p = (part.entry p).map Prod.fst := by
  simp [entry, Function.comp_def]

theorem noted_eq_filter {p : Pair} (dated : part.Dated p) :
    part.noted p = (part.since p).filter (· != p.provenance.position) := by
  cases noted : part.noted p with
  | some earlier =>
    have different : earlier ≠ p.provenance.position := (dated earlier (Option.mem_def.mpr noted)).ne
    rw [since_of_noted noted, Option.filter_some, if_pos (by simpa using different)]
  | none =>
    rw [since_of_unnoted noted]
    split_ifs
    · rw [Option.filter_some, if_neg (by simp)]
    · rfl

theorem parts_eq_of_entry_eq {p q : Pair} (datedLeft : part.Dated p) (datedRight : part.Dated q)
    (provenance : p.provenance = q.provenance) (entries : part.entry p = part.entry q) :
    part.value p = part.value q ∧ part.noted p = part.noted q := by
  constructor
  · rw [value_eq_entry, value_eq_entry, entries]
  · rw [noted_eq_filter datedLeft, noted_eq_filter datedRight, since_eq_entry, since_eq_entry,
      entries, provenance]

theorem entry_of_unnoted {p : Pair} (unnoted : part.noted p = none) :
    part.entry p =
      if part.carried p then some (p.provenance.position, part.value p) else none := by
  rw [entry, since_of_unnoted unnoted]
  split_ifs <;> rfl

theorem dated_of_unnoted {p : Pair} (unnoted : part.noted p = none) : part.Dated p := by
  intro writtenAt noted
  rw [unnoted] at noted
  cases noted

theorem laterPart_cases (newer older : Pair) :
    newer.laterPart older part.since = (newer, part.since newer) ∧
        Entry.later (part.entry newer) (part.entry older) = part.entry newer ∧
        (part.since newer = none → part.since older = none) ∨
      newer.laterPart older part.since = (older, part.since older) ∧
        Entry.later (part.entry newer) (part.entry older) = part.entry older ∧
        part.since older ≠ none := by
  cases first : part.since newer with
  | none =>
    cases second : part.since older with
    | none => simp [Pair.laterPart, Entry.later, entry, first, second]
    | some o => simp [Pair.laterPart, Entry.later, entry, first, second]
  | some n =>
    cases second : part.since older with
    | none => simp [Pair.laterPart, Entry.later, entry, first, second]
    | some o =>
      by_cases below : n < o
      · simp [Pair.laterPart, Entry.later, entry, first, second, below]
      · simp [Pair.laterPart, Entry.later, entry, first, second, below]

theorem value_join_of_unwritten {p q : Pair} (unwritten : part.since q = none) :
    part.value (p.join q) = part.value p := by
  have blank := part.value_eq_blank q (carried_of_since_eq_none unwritten)
  rcases Pair.join_cases p q with ⟨joined, _⟩ | ⟨joined, _⟩
  · rw [joined, part.value_joinOrdered]
    rcases @laterPart_cases _ part q p with ⟨side, _, absent⟩ | ⟨side, _⟩
    · rw [side, blank, part.value_eq_blank p (carried_of_since_eq_none (absent unwritten))]
    · rw [side]
  · rw [joined, part.value_joinOrdered]
    rcases @laterPart_cases _ part p q with ⟨side, _⟩ | ⟨_, _, written⟩
    · rw [side]
    · exact absurd unwritten written

theorem value_join_of_later {p q : Pair} {writtenAt : Position}
    (written : part.since q = some writtenAt)
    (last : ∀ earlier ∈ part.since p, earlier < writtenAt) :
    part.value (p.join q) = part.value q := by
  rcases Pair.join_cases p q with ⟨joined, _⟩ | ⟨joined, _⟩
  · rw [joined, part.value_joinOrdered]
    cases first : part.since p with
    | none => simp [Pair.laterPart, written, first]
    | some earlier => simp [Pair.laterPart, written, first, (last earlier first).asymm]
  · rw [joined, part.value_joinOrdered]
    cases first : part.since p with
    | none => simp [Pair.laterPart, written, first]
    | some earlier => simp [Pair.laterPart, written, first, last earlier first]

section Joining

variable {newer older : Pair} (datedNewer : part.Dated newer) (datedOlder : part.Dated older)
  (below : older.provenance.position ≤ newer.provenance.position)

include datedNewer datedOlder below

theorem since_laterPart_le {writtenAt : Position}
    (written : (newer.laterPart older part.since).2 = some writtenAt) :
    writtenAt ≤ newer.provenance.position := by
  rcases @laterPart_cases _ part newer older with ⟨side, _⟩ | ⟨side, _⟩
  · rw [side] at written
    exact since_le_position datedNewer written
  · rw [side] at written
    exact (since_le_position datedOlder written).trans below

theorem carried_laterPart
    (written : (newer.laterPart older part.since).2 = some newer.provenance.position) :
    part.carried (newer.laterPart older part.since).1 = true := by
  rcases @laterPart_cases _ part newer older with ⟨side, _⟩ | ⟨side, _⟩
  · rw [side] at written ⊢
    exact carried_of_since_eq datedNewer written
  · rw [side] at written ⊢
    have same := le_antisymm below (since_le_position datedOlder written)
    exact carried_of_since_eq datedOlder (same ▸ written)

theorem since_joinOrdered :
    part.since (Pair.joinOrdered newer older) = (newer.laterPart older part.since).2 := by
  have noted := part.noted_joinOrdered newer older
  cases written : (newer.laterPart older part.since).2 with
  | none =>
    have unwritten : part.since newer = none ∧ part.since older = none := by
      rcases @laterPart_cases _ part newer older with ⟨side, _, unwritten⟩ | ⟨side, _, present⟩
      · rw [side] at written
        exact ⟨written, unwritten written⟩
      · rw [side] at written
        exact absurd written present
    rw [written, Option.filter_none] at noted
    rw [since_of_unnoted noted, part.absent_joinOrdered newer older
      (carried_of_since_eq_none unwritten.1) (carried_of_since_eq_none unwritten.2)]
    rfl
  | some writtenAt =>
    by_cases top : writtenAt = newer.provenance.position
    · subst top
      have carried := part.carried_joinOrdered newer older
        (carried_laterPart datedNewer datedOlder below written)
      rw [written, Option.filter_some, if_neg (by simp)] at noted
      rw [since_of_unnoted noted, if_pos carried, Pair.provenance_joinOrdered]
    · rw [written, Option.filter_some, if_pos (by simpa using top)] at noted
      exact since_of_noted noted

theorem dated_joinOrdered : part.Dated (Pair.joinOrdered newer older) := by
  intro writtenAt noted
  rw [part.noted_joinOrdered, Option.mem_def, Option.filter_eq_some_iff] at noted
  have different : writtenAt ≠ newer.provenance.position := by simpa using noted.2
  exact lt_of_le_of_ne (since_laterPart_le datedNewer datedOlder below noted.1) different

theorem entry_joinOrdered :
    part.entry (Pair.joinOrdered newer older) =
      Entry.later (part.entry newer) (part.entry older) := by
  rw [entry, since_joinOrdered datedNewer datedOlder below, part.value_joinOrdered]
  rcases @laterPart_cases _ part newer older with ⟨side, later, _⟩ | ⟨side, later, _⟩
  · rw [side, later]
    rfl
  · rw [side, later]
    rfl

end Joining

variable {p q : Pair} (datedLeft : part.Dated p) (datedRight : part.Dated q)

include datedLeft datedRight

theorem dated_join : part.Dated (p.join q) := by
  rcases Pair.join_cases p q with ⟨joined, ranked⟩ | ⟨joined, ranked⟩
  · rw [joined]
    exact dated_joinOrdered datedRight datedLeft (Provenance.position_le_of_rank_le ranked.le)
  · rw [joined]
    exact dated_joinOrdered datedLeft datedRight (Provenance.position_le_of_rank_le ranked)

theorem entry_join_of_rank_lt (ranked : p.provenance.rank < q.provenance.rank) :
    part.entry (p.join q) = Entry.later (part.entry q) (part.entry p) := by
  rcases Pair.join_cases p q with ⟨joined, _⟩ | ⟨_, opposite⟩
  · rw [joined]
    exact entry_joinOrdered datedRight datedLeft (Provenance.position_le_of_rank_le ranked.le)
  · exact absurd ranked (not_lt.mpr opposite)

theorem entry_join_of_rank_le (ranked : q.provenance.rank ≤ p.provenance.rank) :
    part.entry (p.join q) = Entry.later (part.entry p) (part.entry q) := by
  rcases Pair.join_cases p q with ⟨_, opposite⟩ | ⟨joined, _⟩
  · exact absurd opposite (not_lt.mpr ranked)
  · rw [joined]
    exact entry_joinOrdered datedLeft datedRight (Provenance.position_le_of_rank_le ranked)

/-- Where no two entries were written at one position, the join holds the later one. -/
theorem entry_join (apart : (part.entry p).rank = (part.entry q).rank → part.entry p = part.entry q) :
    part.entry (p.join q) =
      if (part.entry p).rank < (part.entry q).rank then part.entry q else part.entry p := by
  have sides : part.entry (p.join q) = Entry.later (part.entry q) (part.entry p) ∨
      part.entry (p.join q) = Entry.later (part.entry p) (part.entry q) :=
    (lt_or_ge p.provenance.rank q.provenance.rank).imp
      (entry_join_of_rank_lt datedLeft datedRight) (entry_join_of_rank_le datedLeft datedRight)
  rcases lt_trichotomy (part.entry p).rank (part.entry q).rank with below | level | above
  · rw [if_pos below]
    rcases sides with joined | joined
    · rw [joined, Entry.later_eq_left below.le]
    · rw [joined, Entry.later_eq_right below]
  · rw [if_neg level.not_lt]
    rcases sides with joined | joined
    · rw [joined, Entry.later_eq_left level.le, apart level]
    · rw [joined, Entry.later_eq_left level.ge]
  · rw [if_neg above.not_gt]
    rcases sides with joined | joined
    · rw [joined, Entry.later_eq_right above]
    · rw [joined, Entry.later_eq_left above.le]

open Classical in
theorem value_join (apart : ∀ writtenAt ∈ part.since q, part.since p ≠ some writtenAt) :
    part.value (p.join q) =
      if ∃ writtenAt ∈ part.since q, ∀ earlier ∈ part.since p, earlier < writtenAt then part.value q
      else part.value p := by
  have later : (part.entry p).rank < (part.entry q).rank ↔
      ∃ writtenAt ∈ part.since q, ∀ earlier ∈ part.since p, earlier < writtenAt := by
    rw [rank_entry, rank_entry]
    cases part.since q with
    | none => exact iff_of_false not_lt_bot (by simp)
    | some writtenAt =>
      cases part.since p with
      | none => exact iff_of_true (WithBot.bot_lt_coe _) (by simp)
      | some earlier => exact WithBot.coe_lt_coe.trans (by simp)
  rw [value_eq_entry, entry_join datedLeft datedRight]
  · simp only [later]
    split_ifs
    · exact (value_eq_entry q).symm
    · exact (value_eq_entry p).symm
  · intro level
    rw [rank_entry, rank_entry] at level
    cases since : part.since q with
    | none => rw [entry, entry, level, since]; rfl
    | some writtenAt => exact absurd (level.trans since) (apart writtenAt since)

end Part

end SwapLoops
