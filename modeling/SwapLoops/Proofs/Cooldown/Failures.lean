import SwapLoops.Proofs.Cooldown.Histories

/-! The failures that a cooldown counts. Each of them takes time from the end of a window that
the clock can tell, so with the default back-off the count never comes to its end. -/

namespace SwapLoops.Cooldown

variable {c c' : Cooldown} {key key' : String} {now : Moment}

/-- All failures of a key have extended its window, and the clock can tell where it ends. -/
structure Counts (c : Cooldown) (key : String) : Prop where
  extended : c.backoff * ((c.failures key).toNat * ((c.failures key).toNat + 1)) ≤
    2 * c.opensAt key 0
  tellable : c.opensAt key 0 < Moment.limit

theorem toNat_satSucc_le (n : UInt32) : (satSucc n).toNat ≤ n.toNat + 1 := by
  unfold satSucc
  split_ifs with full
  · omega
  · rw [UInt32.toNat_add]
    exact Nat.mod_le _ _

theorem toNat_satSucc {n : UInt32} (room : n.toNat + 1 < UInt32.size) :
    (satSucc n).toNat = n.toNat + 1 := by
  unfold satSucc
  rw [if_neg, UInt32.toNat_add]
  · exact Nat.mod_eq_of_lt room
  · rintro rfl
    exact absurd room (by decide)

theorem counts_new (ttl backoff : Duration) (key : String) : (new ttl backoff).Counts key := by
  have absent : (new ttl backoff).windows[key]? = none := Std.ExtTreeMap.getElem?_empty
  refine ⟨?_, ?_⟩
  · rw [failures_of_none absent]
    exact Nat.zero_le _
  · rw [opensAt_of_none absent]
    decide

theorem Counts.set_of_ne {w : Window} (counts : c.Counts key) (differ : key ≠ key') :
    (c.set key' w).Counts key := by
  refine ⟨?_, ?_⟩
  · rw [failures_set_of_ne differ, opensAt_set_of_ne differ]
    exact counts.extended
  · rw [opensAt_set_of_ne differ]
    exact counts.tellable

theorem Counts.enter {passed : Bool} (counts : c.Counts key)
    (entered : c.enter key' now = .ok (passed, c')) : c'.Counts key := by
  rcases enter_cases entered with ⟨_, rfl, _⟩ | ⟨_, rfl, due, tellable⟩
  · exact counts
  · by_cases same : key = key'
    · subst same
      have later : c.opensAt key 0 ≤ now + c.ttl :=
        (opensAt_le_opensAt (Nat.zero_le _)).trans (due.trans (Nat.le_add_right _ _))
      refine ⟨?_, ?_⟩
      · rw [failures_set_self, opensAt_set_self, backoff_set]
        exact counts.extended.trans (Nat.mul_le_mul_left 2 later)
      · rwa [opensAt_set_self]
    · exact counts.set_of_ne same

theorem pronic_le {m n : Nat} (next : m ≤ n + 1) : m * (m + 1) ≤ n * (n + 1) + 2 * m := by
  calc m * (m + 1)
    _ = m * m + m := Nat.mul_succ m m
    _ ≤ m * (n + 1) + m := Nat.add_le_add_right (Nat.mul_le_mul_left m next) m
    _ = m * n + 2 * m := by rw [Nat.mul_succ, Nat.add_assoc, Nat.two_mul]
    _ ≤ (n + 1) * n + 2 * m := Nat.add_le_add_right (Nat.mul_le_mul_right n next) (2 * m)
    _ = n * (n + 1) + 2 * m := by rw [Nat.mul_comm]

theorem Counts.noteFailure {failures : UInt32} (counts : c.Counts key)
    (noted : c.noteFailure key' now = .ok (failures, c')) : c'.Counts key := by
  obtain ⟨rfl, rfl, tellable⟩ := noteFailure_eq noted
  by_cases same : key = key'
  · subst same
    refine ⟨?_, ?_⟩
    · rw [failures_set_self, opensAt_set_self, backoff_set]
      have start : c.opensAt key 0 ≤ max (c.opensAt key now) now :=
        (opensAt_le_opensAt (Nat.zero_le _)).trans (le_max_left _ _)
      calc c.backoff * ((satSucc (c.failures key)).toNat * ((satSucc (c.failures key)).toNat + 1))
        _ ≤ c.backoff * ((c.failures key).toNat * ((c.failures key).toNat + 1) +
              2 * (satSucc (c.failures key)).toNat) :=
          Nat.mul_le_mul_left _ (pronic_le (toNat_satSucc_le _))
        _ = c.backoff * ((c.failures key).toNat * ((c.failures key).toNat + 1)) +
              2 * (c.backoff * (satSucc (c.failures key)).toNat) := by
          rw [Nat.mul_add, Nat.mul_left_comm c.backoff 2]
        _ ≤ 2 * max (c.opensAt key now) now + 2 * (c.backoff * (satSucc (c.failures key)).toNat) :=
          Nat.add_le_add_right (counts.extended.trans (Nat.mul_le_mul_left 2 start)) _
        _ = 2 * (max (c.opensAt key now) now + c.backoff * (satSucc (c.failures key)).toNat) :=
          (Nat.mul_add _ _ _).symm
    · rwa [opensAt_set_self]
  · exact counts.set_of_ne same

theorem windows_purge_or (c : Cooldown) (key : String) (now : Moment) :
    (c.purge now).windows[key]? = c.windows[key]? ∨ (c.purge now).windows[key]? = none := by
  rw [windows_purge]
  cases c.windows[key]? with
  | none => exact Or.inr rfl
  | some w =>
    by_cases kept : c.isKept now w
    · exact Or.inl (Option.filter_some_pos kept)
    · exact Or.inr (Option.filter_some_neg (Bool.eq_false_of_not_eq_true kept))

theorem Counts.purge (counts : c.Counts key) : (c.purge now).Counts key := by
  rcases windows_purge_or c key now with kept | dropped
  · refine ⟨?_, ?_⟩
    · rw [failures, opensAt, kept]
      exact counts.extended
    · rw [opensAt, kept]
      exact counts.tellable
  · refine ⟨?_, ?_⟩
    · rw [failures_of_none dropped]
      exact Nat.zero_le _
    · rw [opensAt_of_none dropped]
      exact Nat.zero_lt_of_lt counts.tellable

theorem Counts.answers {call : Call} (counts : c.Counts key) (answers : c.Answers now call c') :
    c'.Counts key := by
  cases call with
  | enter key' passed => exact counts.enter answers
  | noteFailure key' failures => exact counts.noteFailure answers
  | purge =>
    cases answers
    exact counts.purge

theorem Answers.failures_of_enter {passed : Bool}
    (answers : c.Answers now (.enter key' passed) c') :
    c'.failures key = c.failures key := by
  rcases enter_cases answers with ⟨_, rfl, _⟩ | ⟨_, rfl, _⟩
  · rfl
  · by_cases same : key = key'
    · subst same
      exact failures_set_self
    · exact failures_set_of_ne same

/-- With the default back-off the clock is at its end before the count. -/
theorem Counts.toNat_satSucc (counts : c.Counts key) (backoff : c.backoff = defaultBackoff) :
    (satSucc (c.failures key)).toNat = (c.failures key).toNat + 1 := by
  apply Cooldown.toNat_satSucc
  by_contra full
  have many : UInt32.size - 1 ≤ (c.failures key).toNat := by omega
  have extended := counts.extended
  rw [backoff] at extended
  have beyond : 2 * Moment.limit ≤ defaultBackoff * ((UInt32.size - 1) * UInt32.size) := by decide
  have late := calc 2 * Moment.limit
    _ ≤ defaultBackoff * ((UInt32.size - 1) * UInt32.size) := beyond
    _ ≤ defaultBackoff * ((c.failures key).toNat * ((c.failures key).toNat + 1)) :=
      Nat.mul_le_mul_left _ (Nat.mul_le_mul many (Nat.le_of_not_lt full))
    _ ≤ 2 * c.opensAt key 0 := extended
  exact absurd counts.tellable (Nat.not_lt.mpr (Nat.le_of_mul_le_mul_left late Nat.two_pos))

end SwapLoops.Cooldown
