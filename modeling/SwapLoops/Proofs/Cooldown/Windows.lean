import Mathlib
import SwapLoops.Cooldown

/-! What each call of a cooldown does to its windows, key by key. -/

namespace SwapLoops.Cooldown

variable {c c' : Cooldown} {key key' : String} {now : Moment} {w : Window}

@[simp] theorem backoff_set : (c.set key w).backoff = c.backoff := rfl

@[simp] theorem windows_set_self : (c.set key w).windows[key]? = some w :=
  Std.ExtTreeMap.getElem?_insert_self

theorem windows_set_of_ne (differ : key' ≠ key) :
    (c.set key w).windows[key']? = c.windows[key']? := by
  rw [set, Std.ExtTreeMap.getElem?_insert, if_neg]
  rw [Std.LawfulEqCmp.compare_eq_iff_eq]
  exact differ.symm

@[simp] theorem windows_purge :
    (c.purge now).windows[key]? = c.windows[key]?.filter (c.isKept now) :=
  Std.ExtTreeMap.getElem?_filter'

theorem windows_purge_congr (ttl : c.ttl = c'.ttl) (same : c.windows[key]? = c'.windows[key]?) :
    (c.purge now).windows[key]? = (c'.purge now).windows[key]? := by
  have kept : c.isKept now = c'.isKept now := by
    funext w
    rw [isKept, isKept, grace, grace, ttl]
  rw [windows_purge, windows_purge, same, kept]

theorem expiresAt_le_of_not_isKept (dropped : c.isKept now w = false) : w.expiresAt ≤ now := by
  unfold isKept Moment.after? at dropped
  split_ifs at dropped
  exact (Nat.le_add_right _ _).trans (Nat.le_of_not_lt (of_decide_eq_false dropped))

/-- The moment from which a key may pass, as far as a cooldown knows at some moment: the end
of its window, or at once. -/
def opensAt (c : Cooldown) (key : String) (now : Moment) : Moment :=
  (c.windows[key]?.map Window.expiresAt).getD now

theorem opensAt_of_some (running : c.windows[key]? = some w) : c.opensAt key now = w.expiresAt := by
  rw [opensAt, running, Option.map_some, Option.getD_some]

theorem opensAt_of_none (absent : c.windows[key]? = none) : c.opensAt key now = now := by
  rw [opensAt, absent, Option.map_none, Option.getD_none]

@[simp] theorem opensAt_set_self : (c.set key w).opensAt key now = w.expiresAt :=
  opensAt_of_some windows_set_self

theorem opensAt_set_of_ne (differ : key' ≠ key) :
    (c.set key w).opensAt key' now = c.opensAt key' now := by
  rw [opensAt, windows_set_of_ne differ, opensAt]

theorem failures_of_some (running : c.windows[key]? = some w) : c.failures key = w.failures := by
  rw [failures, running, Option.map_some, Option.getD_some]

theorem failures_of_none (absent : c.windows[key]? = none) : c.failures key = 0 := by
  rw [failures, absent, Option.map_none, Option.getD_none]

@[simp] theorem failures_set_self : (c.set key w).failures key = w.failures :=
  failures_of_some windows_set_self

theorem failures_set_of_ne (differ : key' ≠ key) :
    (c.set key w).failures key' = c.failures key' := by
  rw [failures, windows_set_of_ne differ, failures]

theorem after_eq_ok {t u : Moment} {d : Duration} (told : t.after d = .ok u) :
    u = t + d ∧ t + d < Moment.limit := by
  unfold Moment.after at told
  split_ifs at told with tellable
  cases told
  exact ⟨rfl, tellable⟩

theorem times_eq_ok {d e : Duration} {n : UInt32} (told : d.times n = .ok e) : e = d * n.toNat := by
  unfold Duration.times at told
  split_ifs at told
  cases told
  rfl

theorem bind_eq_ok {ε α β : Type} {x : Except ε α} {f : α → Except ε β} {b : β}
    (done : x >>= f = .ok b) : ∃ a, x = .ok a ∧ f a = .ok b := by
  cases x with
  | error e => cases done
  | ok a => exact ⟨a, rfl, done⟩

/-- A key is held back while its window runs. Else it passes, and a new window starts that
knows of the failures so far. -/
theorem enter_cases {passed : Bool} (entered : c.enter key now = .ok (passed, c')) :
    passed = false ∧ c' = c ∧ now < c.opensAt key now ∨
      passed = true ∧ c' = c.set key ⟨c.failures key, now + c.ttl⟩ ∧ c.opensAt key now ≤ now ∧
        now + c.ttl < Moment.limit := by
  unfold enter at entered
  split at entered
  · next absent =>
    obtain ⟨expiresAt, told, done⟩ := bind_eq_ok entered
    obtain ⟨rfl, tellable⟩ := after_eq_ok told
    cases done
    rw [failures_of_none absent, opensAt_of_none absent]
    exact Or.inr ⟨rfl, rfl, le_rfl, tellable⟩
  · next w running =>
    rw [failures_of_some running, opensAt_of_some running]
    split_ifs at entered with early
    · cases entered
      exact Or.inl ⟨rfl, rfl, early⟩
    · obtain ⟨expiresAt, told, done⟩ := bind_eq_ok entered
      obtain ⟨rfl, tellable⟩ := after_eq_ok told
      cases done
      exact Or.inr ⟨rfl, rfl, Nat.le_of_not_lt early, tellable⟩

/-- A failure counts one more and extends the window from where it ends, or from now on. -/
theorem noteFailure_eq {failures : UInt32} (noted : c.noteFailure key now = .ok (failures, c')) :
    failures = satSucc (c.failures key) ∧
      c' = c.set key ⟨failures, max (c.opensAt key now) now + c.backoff * failures.toNat⟩ ∧
      max (c.opensAt key now) now + c.backoff * failures.toNat < Moment.limit := by
  have window : (c.windows[key]?.getD ⟨0, now⟩).failures = c.failures key ∧
      (c.windows[key]?.getD ⟨0, now⟩).expiresAt = c.opensAt key now := by
    cases running : c.windows[key]? with
    | none => exact ⟨(failures_of_none running).symm, (opensAt_of_none running).symm⟩
    | some w => exact ⟨(failures_of_some running).symm, (opensAt_of_some running).symm⟩
  simp only [noteFailure, window.1, window.2] at noted
  obtain ⟨extension, extended, noted⟩ := bind_eq_ok noted
  obtain ⟨expiresAt, told, done⟩ := bind_eq_ok noted
  obtain rfl := times_eq_ok extended
  obtain ⟨rfl, tellable⟩ := after_eq_ok told
  cases done
  exact ⟨rfl, rfl, tellable⟩

section Opening

theorem opensAt_le_opensAt {earlier : Moment} (later : earlier ≤ now) :
    c.opensAt key earlier ≤ c.opensAt key now := by
  cases running : c.windows[key]? with
  | none => rwa [opensAt_of_none running, opensAt_of_none running]
  | some w => rw [opensAt_of_some running, opensAt_of_some running]

theorem opensAt_le_of_enter {passed : Bool} (entered : c.enter key' now = .ok (passed, c')) :
    c.opensAt key now ≤ c'.opensAt key now := by
  rcases enter_cases entered with ⟨_, rfl, _⟩ | ⟨_, rfl, due, _⟩
  · exact le_rfl
  · by_cases same : key = key'
    · subst same
      rw [opensAt_set_self]
      exact due.trans (Nat.le_add_right _ _)
    · rw [opensAt_set_of_ne same]

theorem opensAt_le_of_purge : c.opensAt key now ≤ (c.purge now).opensAt key now := by
  cases running : c.windows[key]? with
  | none => rw [opensAt, opensAt, windows_purge, running, Option.filter_none]
  | some w =>
    rw [opensAt_of_some running, opensAt, windows_purge, running]
    cases kept : c.isKept now w with
    | true => rw [Option.filter_some_pos kept, Option.map_some, Option.getD_some]
    | false =>
      rw [Option.filter_some_neg (by simp [kept]), Option.map_none, Option.getD_none]
      exact expiresAt_le_of_not_isKept kept

end Opening

end SwapLoops.Cooldown
