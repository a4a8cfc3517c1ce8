import SwapLoops.Proofs.Cooldown.Windows

/-! Calls on a cooldown, one after the other. Along a history the moment from which a key
may pass never comes earlier, and each failure of the key moves it on. -/

namespace SwapLoops.Cooldown

inductive Call
  | enter (key : String) (passed : Bool)
  | noteFailure (key : String) (failures : UInt32)
  | purge
deriving DecidableEq, Repr

/-- The call gives this answer at a moment, without an overflow of the clock, and leaves
this cooldown. -/
def Answers (c : Cooldown) (now : Moment) : Call → Cooldown → Prop
  | .enter key passed, c' => c.enter key now = .ok (passed, c')
  | .noteFailure key failures, c' => c.noteFailure key now = .ok (failures, c')
  | .purge, c' => c.purge now = c'

inductive History : Cooldown → List (Moment × Call) → Cooldown → Prop
  | nil (c : Cooldown) : History c [] c
  | cons {c c' c'' : Cooldown} {now : Moment} {call : Call} {calls : List (Moment × Call)}
      (first : c.Answers now call c') (rest : History c' calls c'') :
      History c ((now, call) :: calls) c''

def Call.weight (key : String) : Call → Nat
  | .noteFailure key' failures => if key' = key then failures.toNat else 0
  | _ => 0

def backoffs (key : String) (calls : List (Moment × Call)) : Nat :=
  (calls.map fun (_, call) => call.weight key).sum

variable {c c' c'' : Cooldown} {key : String} {now : Moment} {call : Call}
  {calls before after : List (Moment × Call)}

theorem Answers.durations (answers : c.Answers now call c') :
    c'.ttl = c.ttl ∧ c'.backoff = c.backoff := by
  cases call with
  | enter key passed =>
    rcases enter_cases answers with ⟨_, rfl, _⟩ | ⟨_, rfl, _⟩
    · exact ⟨rfl, rfl⟩
    · exact ⟨rfl, rfl⟩
  | noteFailure key failures =>
    obtain ⟨_, rfl, _⟩ := noteFailure_eq answers
    exact ⟨rfl, rfl⟩
  | purge =>
    cases answers
    exact ⟨rfl, rfl⟩

theorem Answers.opensAt_le (answers : c.Answers now call c') :
    c.opensAt key now + c.backoff * call.weight key ≤ c'.opensAt key now := by
  cases call with
  | enter key' passed => exact opensAt_le_of_enter answers
  | purge =>
    cases answers
    exact opensAt_le_of_purge
  | noteFailure key' failures =>
    obtain ⟨_, rfl, _⟩ := noteFailure_eq answers
    by_cases same : key' = key
    · subst same
      rw [Call.weight, if_pos rfl, opensAt_set_self]
      exact Nat.add_le_add_right (le_max_left _ _) _
    · rw [Call.weight, if_neg same, opensAt_set_of_ne (Ne.symm same)]
      exact le_rfl

theorem Answers.opensAt_le_of_passes (answers : c.Answers now (.enter key true) c') :
    c.opensAt key now ≤ now := by
  rcases enter_cases answers with ⟨held, _⟩ | ⟨_, _, due, _⟩
  · cases held
  · exact due

theorem Answers.opensAt_eq_of_passes {t : Moment} (answers : c.Answers now (.enter key true) c') :
    c'.opensAt key t = now + c.ttl := by
  rcases enter_cases answers with ⟨held, _⟩ | ⟨_, rfl, _⟩
  · cases held
  · exact opensAt_set_self

theorem Answers.le_opensAt_of_noteFailure {failures : UInt32} {t : Moment}
    (answers : c.Answers now (.noteFailure key failures) c') :
    now + c.backoff * failures.toNat ≤ c'.opensAt key t := by
  obtain ⟨_, rfl, _⟩ := noteFailure_eq answers
  rw [opensAt_set_self]
  exact Nat.add_le_add_right (le_max_right _ _) _

theorem history_append :
    History c (before ++ after) c'' ↔ ∃ c', History c before c' ∧ History c' after c'' := by
  constructor
  · intro history
    induction before generalizing c with
    | nil => exact ⟨c, .nil c, history⟩
    | cons call before ih =>
      cases history with
      | cons first rest =>
        obtain ⟨c', front, back⟩ := ih rest
        exact ⟨c', .cons first front, back⟩
  · rintro ⟨c', front, back⟩
    induction front with
    | nil => exact back
    | cons first _ ih => exact .cons first (ih back)

theorem History.durations (history : History c calls c') :
    c'.ttl = c.ttl ∧ c'.backoff = c.backoff := by
  induction history with
  | nil => exact ⟨rfl, rfl⟩
  | cons first _ ih =>
    obtain ⟨ttl, backoff⟩ := first.durations
    exact ⟨ih.1.trans ttl, ih.2.trans backoff⟩

def Between (start : Moment) (calls : List (Moment × Call)) (finish : Moment) : Prop :=
  (start :: (calls.map Prod.fst ++ [finish])).Pairwise (· ≤ ·)

/-- Along a history the opening of a key moves on by the back-offs of its failures, at least. -/
theorem History.opensAt_le {start finish : Moment} (history : History c calls c')
    (between : Between start calls finish) :
    c.opensAt key start + c.backoff * backoffs key calls ≤ c'.opensAt key finish := by
  induction history generalizing start with
  | nil c =>
    have later : start ≤ finish := List.rel_of_pairwise_cons between (by simp)
    exact opensAt_le_opensAt later
  | @cons c c' c'' now call calls first rest ih =>
    have later : start ≤ now := List.rel_of_pairwise_cons between (by simp)
    have onward := ih between.of_cons
    rw [first.durations.2] at onward
    calc c.opensAt key start + c.backoff * (call.weight key + backoffs key calls)
      _ = c.opensAt key start + c.backoff * call.weight key + c.backoff * backoffs key calls := by
        rw [Nat.mul_add, Nat.add_assoc]
      _ ≤ c.opensAt key now + c.backoff * call.weight key + c.backoff * backoffs key calls :=
        Nat.add_le_add_right (Nat.add_le_add_right (opensAt_le_opensAt later) _) _
      _ ≤ c'.opensAt key now + c.backoff * backoffs key calls :=
        Nat.add_le_add_right first.opensAt_le _
      _ ≤ c''.opensAt key finish := onward

theorem History.exists_answers (history : History c calls c')
    (ordered : (calls.map Prod.fst).Pairwise (· ≤ ·)) {s : Moment}
    {earlier between : List (Moment × Call)}
    (passes : calls = earlier ++ (s, call) :: (between ++ (now, .enter key true) :: after)) :
    ∃ c₁ c₂ : Cooldown, c₁.Answers s call c₂ ∧ c₁.ttl = c.ttl ∧ c₁.backoff = c.backoff ∧
      c₂.opensAt key s + c.backoff * backoffs key between ≤ now := by
  subst passes
  obtain ⟨c₁, front, history⟩ := history_append.mp history
  cases history with
  | @cons _ c₂ _ _ _ _ answers rest =>
    obtain ⟨c₃, middle, last⟩ := history_append.mp rest
    cases last with
    | cons passing _ =>
      -- from the earlier call to the one that passes, the moments are a part of all of them
      have moments : Between s between now := by
        refine ordered.sublist ?_
        simp only [List.map_append, List.map_cons]
        have last : List.Sublist [now] (now :: after.map Prod.fst) :=
          List.singleton_sublist.mpr List.mem_cons_self
        exact ((last.append_left _).cons_cons s).trans (List.sublist_append_right _ _)
      have opening : c₂.opensAt key s + c₂.backoff * backoffs key between ≤ now :=
        (middle.opensAt_le moments).trans passing.opensAt_le_of_passes
      rw [answers.durations.2, front.durations.2] at opening
      exact ⟨c₁, c₂, answers, front.durations.1, front.durations.2, opening⟩

/-- A key that has passed does not pass again before its window is over, together with the
back-offs of all its failures since, which follow on the end of the window. A failure also
holds its key back by itself. -/
theorem entry_waits (history : History c calls c')
    (ordered : (calls.map Prod.fst).Pairwise (· ≤ ·))
    (passes : calls = before ++ (now, .enter key true) :: after) :
    (∀ s, (s, .enter key true) ∈ before → s + c.ttl ≤ now) ∧
      (∀ s failures, (s, .noteFailure key failures) ∈ before →
        s + c.backoff * failures.toNat ≤ now) ∧
      ∀ s earlier between, before = earlier ++ (s, .enter key true) :: between →
        s + c.ttl + c.backoff * backoffs key between ≤ now := by
  have since : ∀ s earlier between, before = earlier ++ (s, .enter key true) :: between →
      s + c.ttl + c.backoff * backoffs key between ≤ now := by
    rintro s earlier between rfl
    obtain ⟨c₁, c₂, answers, ttl, _, opening⟩ := history.exists_answers ordered
      (passes.trans (List.append_assoc ..))
    rwa [answers.opensAt_eq_of_passes, ttl] at opening
  refine ⟨fun s member => ?_, fun s failures member => ?_, since⟩
  · obtain ⟨earlier, between, split⟩ := List.append_of_mem member
    exact (Nat.le_add_right _ _).trans (since s earlier between split)
  · obtain ⟨earlier, between, rfl⟩ := List.append_of_mem member
    obtain ⟨c₁, c₂, answers, _, backoff, opening⟩ := history.exists_answers ordered
      (passes.trans (List.append_assoc ..))
    calc s + c.backoff * failures.toNat
      _ ≤ c₂.opensAt key s := backoff ▸ answers.le_opensAt_of_noteFailure
      _ ≤ c₂.opensAt key s + c.backoff * backoffs key between := Nat.le_add_right _ _
      _ ≤ now := opening

def replied? {α : Type} [DecidableEq α] (answer : α) (told : Except ClockError (α × Cooldown)) :
    Option Cooldown :=
  match told with
  | .ok (answer', c') => if answer' = answer then some c' else none
  | .error _ => none

theorem eq_of_replied? {α : Type} [DecidableEq α] {answer : α}
    {told : Except ClockError (α × Cooldown)} (replied : replied? answer told = some c') :
    told = .ok (answer, c') := by
  unfold replied? at replied
  split at replied
  · split_ifs at replied with same
    cases replied
    rw [same]
  · cases replied

def Call.replay? (c : Cooldown) : Moment × Call → Option Cooldown
  | (now, .enter key passed) => replied? passed (c.enter key now)
  | (now, .noteFailure key failures) => replied? failures (c.noteFailure key now)
  | (now, .purge) => some (c.purge now)

theorem Answers.of_replay? (replayed : Call.replay? c (now, call) = some c') :
    c.Answers now call c' := by
  cases call with
  | enter key passed => exact eq_of_replied? replayed
  | noteFailure key failures => exact eq_of_replied? replayed
  | purge => exact Option.some.inj replayed

theorem History.of_replay? (replayed : calls.foldlM Call.replay? c = some c') :
    c.History calls c' := by
  induction calls generalizing c with
  | nil =>
    cases replayed
    exact .nil _
  | cons call calls ih =>
    obtain ⟨next, first, rest⟩ := Option.bind_eq_some_iff.mp replayed
    exact .cons (.of_replay? first) (ih rest)

/-- A loop that passes, fails twice, is held back and passes again, next to one that does not
fail and leaves at the purge. -/
def stackedCalls : List (Moment × Call) :=
  [(0, .enter "loop" true), (0, .enter "other" true), (1, .noteFailure "loop" 1),
    (2, .noteFailure "loop" 2), (Duration.ofSeconds 5340, .enter "loop" false),
    (Duration.ofSeconds 5350, .purge), (Duration.ofSeconds 5460, .enter "loop" true)]

theorem stackedCalls_wait :
    ∃ c', (new (.ofSeconds 3600) (.ofSeconds 600)).History stackedCalls c' ∧
      0 + Duration.ofSeconds 3600 ≤ Duration.ofSeconds 5460 ∧
      1 + Duration.ofSeconds 600 * (1 : UInt32).toNat ≤ Duration.ofSeconds 5460 ∧
      0 + Duration.ofSeconds 3600 +
        Duration.ofSeconds 600 * backoffs "loop" (stackedCalls.dropLast.drop 1) ≤
          Duration.ofSeconds 5460 := by
  have replayed :
      (stackedCalls.foldlM Call.replay? (new (.ofSeconds 3600) (.ofSeconds 600))).isSome := by
    decide +kernel
  obtain ⟨c', replayed⟩ := Option.isSome_iff_exists.mp replayed
  have history := History.of_replay? replayed
  have passes : stackedCalls =
      stackedCalls.dropLast ++ [(Duration.ofSeconds 5460, .enter "loop" true)] := rfl
  obtain ⟨window, failure, since⟩ := entry_waits history (by decide) passes
  exact ⟨c', history, window 0 (by decide), failure 1 1 (by decide), since 0 [] _ rfl⟩

end SwapLoops.Cooldown
