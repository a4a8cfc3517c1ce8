import SwapLoops.Proofs.Cooldown.Failures

/-! A purge only drops what no longer matters. A key that lost its window is let through as before,
and a window that has failed is kept for one more, so that a failure in that time still counts on. -/

namespace SwapLoops.Cooldown

namespace Call

def isOn (key : String) : Call → Bool
  | enter key' _ => key' = key
  | noteFailure key' _ => key' = key
  | purge => false

def isFailureOf (key : String) : Call → Bool
  | noteFailure key' _ => key' = key
  | _ => false

inductive Repeats : Call → Call → Prop
  | enter (key : String) (passed passed' : Bool) : Repeats (enter key passed) (enter key passed')
  | noteFailure (key : String) (failures failures' : UInt32) :
      Repeats (noteFailure key failures) (noteFailure key failures')
  | purge : Repeats purge purge

end Call

def onKey (key : String) (calls : List (Moment × Call)) : List (Moment × Call) :=
  calls.filter fun (_, call) => call.isOn key

def Spares (key : String) (calls : List (Moment × Call)) : Prop :=
  ∀ asked ∈ calls, asked.2.isFailureOf key = false

instance (key : String) (calls : List (Moment × Call)) : Decidable (Spares key calls) :=
  inferInstanceAs (Decidable (∀ asked ∈ calls, asked.2.isFailureOf key = false))

/-- The same calls without some of the purges, none of which is followed by a failure of the key.
What the calls answer may differ. -/
inductive Thins (key : String) : List (Moment × Call) → List (Moment × Call) → Prop
  | nil : Thins key [] []
  | keep {now : Moment} {call call' : Call} {calls calls' : List (Moment × Call)}
      (again : call.Repeats call') (rest : Thins key calls calls') :
      Thins key ((now, call) :: calls) ((now, call') :: calls')
  | drop {now : Moment} {calls calls' : List (Moment × Call)} (spares : Spares key calls)
      (rest : Thins key calls calls') : Thins key ((now, .purge) :: calls) calls'

/-- The window of a key, if it has one, still runs or would if it were longer by one more. -/
def Lingers (c : Cooldown) (key : String) (now : Moment) : Prop :=
  ∀ w, c.windows[key]? = some w → now < w.expiresAt + c.ttl

def heldUntil (c : Cooldown) (key : String) (now : Moment) : Moment := max (c.opensAt key now) now

variable {c c' c'' c₁ c₁' c₂ c₂' : Cooldown} {key key' : String} {now start : Moment}
  {call call' : Call} {calls calls' : List (Moment × Call)} {w : Window}

section Held

theorem heldUntil_later {earlier : Moment} (later : earlier ≤ now) :
    c.heldUntil key now = max (c.heldUntil key earlier) now := by
  unfold heldUntil
  cases running : c.windows[key]? with
  | none => simp [opensAt_of_none running, later]
  | some w =>
    rw [opensAt_of_some running, opensAt_of_some running, max_assoc, max_eq_right later]

theorem heldUntil_congr (same : c₁.windows[key]? = c₂.windows[key]?) :
    c₁.heldUntil key now = c₂.heldUntil key now := by
  rw [heldUntil, heldUntil, opensAt, opensAt, same]

theorem heldUntil_set_self : (c.set key w).heldUntil key now = max w.expiresAt now := by
  rw [heldUntil, opensAt_set_self]

/-- What a purge drops does not hold its key back any more. -/
theorem heldUntil_purge : (c.purge now).heldUntil key now = c.heldUntil key now := by
  cases running : c.windows[key]? with
  | none => exact heldUntil_congr (by rw [windows_purge, running, Option.filter_none])
  | some w =>
    cases kept : c.isKept now w with
    | true => exact heldUntil_congr (by rw [windows_purge, running, Option.filter_some_pos kept])
    | false =>
      have dropped : (c.purge now).windows[key]? = none := by
        rw [windows_purge, running, Option.filter_some_neg (by simp [kept])]
      rw [heldUntil, heldUntil, opensAt_of_none dropped, opensAt_of_some running, max_self,
        max_eq_right (expiresAt_le_of_not_isKept kept)]

end Held

section Calls

theorem after_of_lt {t : Moment} {d : Duration} (tellable : t + d < Moment.limit) :
    t.after d = .ok (t + d) :=
  if_pos tellable

theorem enter_of_held (held : now < c.opensAt key now) : c.enter key now = .ok (false, c) := by
  unfold enter
  split
  · next absent =>
    rw [opensAt_of_none absent] at held
    exact absurd held (lt_irrefl now)
  · next w running =>
    rw [opensAt_of_some running] at held
    rw [if_pos held]
    rfl

theorem enter_of_due (due : c.opensAt key now ≤ now) (tellable : now + c.ttl < Moment.limit) :
    c.enter key now = .ok (true, c.set key ⟨c.failures key, now + c.ttl⟩) := by
  unfold enter
  split
  · next absent =>
    rw [after_of_lt tellable, failures_of_none absent]
    rfl
  · next w running =>
    rw [opensAt_of_some running] at due
    rw [if_neg (Nat.not_lt.mpr due), after_of_lt tellable, failures_of_some running]
    rfl

theorem exists_noteFailure {failures : UInt32} (same : c₁.windows[key]? = c₂.windows[key]?)
    (backoff : c₁.backoff = c₂.backoff) (noted : c₁.noteFailure key now = .ok (failures, c₁')) :
    ∃ w, c₁' = c₁.set key w ∧ c₂.noteFailure key now = .ok (failures, c₂.set key w) := by
  simp only [noteFailure, same, backoff] at noted ⊢
  obtain ⟨extension, extended, noted⟩ := bind_eq_ok noted
  obtain ⟨expiresAt, told, done⟩ := bind_eq_ok noted
  cases done
  refine ⟨_, rfl, ?_⟩
  rw [extended]
  show (Moment.after _ extension >>= _) = _
  rw [told]
  rfl

theorem Answers.unique (again : call.Repeats call') (first : c.Answers now call c')
    (second : c.Answers now call' c'') : call' = call ∧ c'' = c' := by
  cases again with
  | enter key passed passed' =>
    cases Except.ok.inj (Eq.symm first |>.trans second)
    exact ⟨rfl, rfl⟩
  | noteFailure key failures failures' =>
    cases Except.ok.inj (Eq.symm first |>.trans second)
    exact ⟨rfl, rfl⟩
  | purge => exact ⟨rfl, Eq.symm second |>.trans first⟩

theorem Answers.windows_eq (answers : c.Answers now call c') (off : call.isOn key = false)
    (keeps : call ≠ .purge) : c'.windows[key]? = c.windows[key]? := by
  cases call with
  | enter key' passed =>
    have differ : key ≠ key' := Ne.symm (of_decide_eq_false off)
    rcases enter_cases answers with ⟨_, rfl, _⟩ | ⟨_, rfl, _⟩
    · rfl
    · exact windows_set_of_ne differ
  | noteFailure key' failures =>
    have differ : key ≠ key' := Ne.symm (of_decide_eq_false off)
    obtain ⟨_, rfl, _⟩ := noteFailure_eq answers
    exact windows_set_of_ne differ
  | purge => exact absurd rfl keeps

theorem Answers.heldUntil_eq (answers : c.Answers now call c') (off : call.isOn key = false) :
    c'.heldUntil key now = c.heldUntil key now := by
  by_cases purges : call = .purge
  · subst purges
    cases answers
    exact heldUntil_purge
  · exact heldUntil_congr (answers.windows_eq off purges)

end Calls

/-- Two cooldowns that hold a key back alike. They also agree on its failures, unless the calls
that follow do not add to these. -/
structure Alike (key : String) (now : Moment) (calls : List (Moment × Call))
    (c₁ c₂ : Cooldown) : Prop where
  ttl : c₁.ttl = c₂.ttl
  backoff : c₁.backoff = c₂.backoff
  held : c₁.heldUntil key now = c₂.heldUntil key now
  counted : c₁.windows[key]? = c₂.windows[key]? ∨ Spares key calls

namespace Alike

theorem refl (key : String) (now : Moment) (calls : List (Moment × Call)) (c : Cooldown) :
    Alike key now calls c c :=
  ⟨rfl, rfl, rfl, Or.inl rfl⟩

theorem later (alike : Alike key start calls c₁ c₂) (later : start ≤ now) :
    Alike key now calls c₁ c₂ := by
  refine ⟨alike.ttl, alike.backoff, ?_, alike.counted⟩
  rw [heldUntil_later later, heldUntil_later later, alike.held]

theorem spares_tail {asked : Moment × Call}
    (counted : c₁.windows[key]? = c₂.windows[key]? ∨ Spares key (asked :: calls)) :
    c₁.windows[key]? = c₂.windows[key]? ∨ Spares key calls :=
  counted.imp_right fun spares => (List.forall_mem_cons.mp spares).2

/-- A call about the key that the one cooldown answers gets the same answer from the other. -/
theorem exists_answers (alike : Alike key now ((now, call) :: calls) c₁ c₂)
    (on : call.isOn key = true) (answers : c₁.Answers now call c₁') :
    ∃ c₂', c₂.Answers now call c₂' ∧ Alike key now calls c₁' c₂' := by
  obtain ⟨ttl, backoff, held, counted⟩ := alike
  cases call with
  | purge => cases on
  | enter key' passed =>
    obtain rfl : key' = key := of_decide_eq_true on
    rcases enter_cases answers with ⟨rfl, rfl, early⟩ | ⟨rfl, rfl, due, tellable⟩
    · have early₂ : now < c₂.opensAt key' now := by
        have beyond : now < c₂.heldUntil key' now := held ▸ lt_max_of_lt_left early
        exact (lt_max_iff.mp beyond).resolve_right (lt_irrefl now)
      exact ⟨c₂, enter_of_held early₂, ttl, backoff, held, spares_tail counted⟩
    · have due₂ : c₂.opensAt key' now ≤ now := by
        have present : c₂.heldUntil key' now = now := by rw [← held, heldUntil, max_eq_right due]
        exact (le_max_left _ _).trans_eq present
      refine ⟨_, enter_of_due due₂ (ttl ▸ tellable), ttl, backoff, ?_, ?_⟩
      · rw [heldUntil_set_self, heldUntil_set_self, ttl]
      · refine (spares_tail counted).imp_left fun same => ?_
        rw [windows_set_self, windows_set_self, failures, failures, same, ttl]
  | noteFailure key' failures =>
    obtain rfl : key' = key := of_decide_eq_true on
    -- a failure of the key is still to come, so the windows are the same
    have same : c₁.windows[key']? = c₂.windows[key']? := by
      refine counted.resolve_right fun spares => ?_
      exact Bool.false_ne_true ((List.forall_mem_cons.mp spares).1.symm.trans on)
    obtain ⟨w, rfl, noted⟩ := exists_noteFailure same backoff answers
    refine ⟨_, noted, ttl, backoff, ?_, Or.inl ?_⟩
    · rw [heldUntil_set_self, heldUntil_set_self]
    · rw [windows_set_self, windows_set_self]

theorem aside (alike : Alike key now ((now, call) :: calls) c₁ c₂) (off : call.isOn key = false)
    (again : call.Repeats call') (first : c₁.Answers now call c₁')
    (second : c₂.Answers now call' c₂') : Alike key now calls c₁' c₂' := by
  have off' : call'.isOn key = false := by cases again <;> exact off
  refine ⟨?_, ?_, ?_, ?_⟩
  · rw [first.durations.1, second.durations.1, alike.ttl]
  · rw [first.durations.2, second.durations.2, alike.backoff]
  · rw [first.heldUntil_eq off, second.heldUntil_eq off', alike.held]
  · refine (spares_tail alike.counted).imp_left fun same => ?_
    cases again with
    | purge =>
      cases first
      cases second
      exact windows_purge_congr alike.ttl same
    | enter key passed passed' =>
      rw [first.windows_eq off (by simp), second.windows_eq off' (by simp), same]
    | noteFailure key failures failures' =>
      rw [first.windows_eq off (by simp), second.windows_eq off' (by simp), same]

theorem step (alike : Alike key now ((now, call) :: calls) c₁ c₂) (again : call.Repeats call')
    (first : c₁.Answers now call c₁') (second : c₂.Answers now call' c₂') :
    Alike key now calls c₁' c₂' ∧ (call.isOn key = true → call' = call) ∧
      call'.isOn key = call.isOn key := by
  have about : call'.isOn key = call.isOn key := by cases again <;> rfl
  cases on : call.isOn key with
  | false => exact ⟨alike.aside on again first second, Bool.noConfusion, about.trans on⟩
  | true =>
    obtain ⟨c₂'', answers, alike'⟩ := alike.exists_answers on first
    obtain ⟨rfl, rfl⟩ := answers.unique again second
    exact ⟨alike', fun _ => rfl, on⟩

theorem drop (alike : Alike key now ((now, .purge) :: calls) c₁ c₂) (spares : Spares key calls)
    (purged : c₁.Answers now .purge c₁') : Alike key now calls c₁' c₂ :=
  ⟨purged.durations.1.trans alike.ttl, purged.durations.2.trans alike.backoff,
    (purged.heldUntil_eq rfl).trans alike.held, Or.inr spares⟩

end Alike

section Thinned

theorem onKey_cons (now : Moment) (call : Call) (calls : List (Moment × Call)) :
    onKey key ((now, call) :: calls) =
      if call.isOn key then (now, call) :: onKey key calls else onKey key calls :=
  List.filter_cons

/-- Without the purges the calls about the key answer the same. -/
theorem Thins.onKey_eq (thinned : Thins key calls calls') (alike : Alike key start calls c₁ c₂)
    (ordered : (start :: calls.map Prod.fst).Pairwise (· ≤ ·)) (full : c₁.History calls c)
    (thin : c₂.History calls' c') : onKey key calls' = onKey key calls := by
  induction thinned generalizing start c₁ c₂ with
  | nil => rfl
  | @keep now call call' calls calls' again _ ih =>
    have later : start ≤ now := List.rel_of_pairwise_cons ordered (by simp)
    cases full with
    | cons first₁ rest₁ =>
      cases thin with
      | cons first₂ rest₂ =>
        obtain ⟨alike', same, about⟩ := (alike.later later).step again first₁ first₂
        rw [onKey_cons, onKey_cons, ih alike' ordered.of_cons rest₁ rest₂, about]
        split_ifs with on
        · rw [same on]
        · rfl
  | @drop now calls calls' spares _ ih =>
    have later : start ≤ now := List.rel_of_pairwise_cons ordered (by simp)
    cases full with
    | cons first rest =>
      rw [ih ((alike.later later).drop spares first) ordered.of_cons rest thin]
      rfl

/-- Without the purges the clock does not stop at a call about the key. -/
theorem Thins.exists_answers {front back : List (Moment × Call)}
    (thinned : Thins key calls (front ++ (now, call) :: back))
    (alike : Alike key start calls c₁ c₂)
    (ordered : (start :: calls.map Prod.fst).Pairwise (· ≤ ·)) (full : c₁.History calls c)
    (thin : c₂.History front c') (on : call.isOn key = true) :
    ∃ answered c'', answered.Repeats call ∧ c'.Answers now answered c'' := by
  generalize whole : front ++ (now, call) :: back = calls' at thinned
  induction thinned generalizing start c₁ c₂ front with
  | nil => cases front <;> cases whole
  | @keep now₀ call₀ call₀' calls calls' again _ ih =>
    have later : start ≤ now₀ := List.rel_of_pairwise_cons ordered (by simp)
    cases full with
    | cons first₁ rest₁ =>
      cases thin with
      | nil =>
        cases whole
        have on₀ : call₀.isOn key = true := by cases again <;> exact on
        obtain ⟨c₂', answers, _⟩ := (alike.later later).exists_answers on₀ first₁
        exact ⟨call₀, c₂', again, answers⟩
      | cons first₂ rest₂ =>
        cases whole
        have stepped := (alike.later later).step again first₁ first₂
        exact ih stepped.1 ordered.of_cons rest₁ rest₂ rfl
  | @drop now₀ calls calls' spares _ ih =>
    have later : start ≤ now₀ := List.rel_of_pairwise_cons ordered (by simp)
    cases full with
    | cons first rest =>
      exact ih ((alike.later later).drop spares first) ordered.of_cons rest thin whole

end Thinned

section Counts

theorem Lingers.earlier {earlier : Moment} (lingers : c.Lingers key now) (le : earlier ≤ now) :
    c.Lingers key earlier :=
  fun w running => le.trans_lt (lingers w running)

theorem Lingers.isKept (lingers : c.Lingers key now) (running : c.windows[key]? = some w)
    (failed : w.failures ≠ 0) : c.isKept now w = true := by
  unfold Cooldown.isKept Moment.after?
  rw [grace, if_neg failed]
  split
  · next limit told =>
    split_ifs at told
    cases told
    exact decide_eq_true (lingers w running)
  · rfl

theorem failures_purge (lingers : c.failures key ≠ 0 → c.Lingers key now) :
    (c.purge now).failures key = c.failures key := by
  cases running : c.windows[key]? with
  | none => rw [failures, failures, windows_purge, running, Option.filter_none]
  | some w =>
    rw [failures_of_some running] at lingers
    by_cases failed : w.failures = 0
    · -- whether the window goes or stays, it has no failures
      rw [failures_of_some running, failed]
      rcases windows_purge_or c key now with kept | dropped
      · rw [failures_of_some (kept.trans running), failed]
      · rw [failures_of_none dropped]
    · have kept := (lingers failed).isKept running failed
      rw [failures, windows_purge, running, Option.filter_some_pos kept, failures_of_some running,
        Option.map_some, Option.getD_some]

/-- Up to a moment at which the window of a key lingers, its failures are kept by all calls but
one that adds to them, and the window still lingers. -/
theorem Answers.remembers {asked : Moment} (answers : c.Answers asked call c')
    (spares : call.isFailureOf key = false) (le : asked ≤ now)
    (lingers : c.failures key ≠ 0 → c.Lingers key now) :
    c'.failures key = c.failures key ∧ (c.failures key ≠ 0 → c'.Lingers key now) := by
  have ttl := answers.durations.1
  have of_windows_eq (same : c'.windows[key]? = c.windows[key]?) :
      c'.failures key = c.failures key ∧ (c.failures key ≠ 0 → c'.Lingers key now) := by
    refine ⟨by rw [failures, failures, same], fun failed w running => ?_⟩
    rw [ttl]
    exact lingers failed w (same.symm.trans running)
  cases call with
  | noteFailure key' failures => exact of_windows_eq (answers.windows_eq spares (by simp))
  | purge =>
    cases answers
    refine ⟨failures_purge fun failed => (lingers failed).earlier le, fun failed w running => ?_⟩
    rcases windows_purge_or c key asked with kept | dropped
    · exact lingers failed w (kept.symm.trans running)
    · rw [dropped] at running
      cases running
  | enter key' passed =>
    refine ⟨answers.failures_of_enter, fun failed w running => ?_⟩
    by_cases same : key' = key
    · subst same
      rcases enter_cases answers with ⟨_, rfl, _⟩ | ⟨_, rfl, due, _⟩
      · exact lingers failed w running
      · -- the new window ends after the one that was over
        obtain ⟨w', before⟩ : ∃ w', c.windows[key']? = some w' := by
          refine Option.ne_none_iff_exists'.mp fun absent => ?_
          exact failed (failures_of_none absent)
        rw [opensAt_of_some before] at due
        rw [windows_set_self] at running
        cases running
        calc now
          _ < w'.expiresAt + c.ttl := lingers failed w' before
          _ ≤ asked + c.ttl := Nat.add_le_add_right due _
          _ ≤ asked + c.ttl + c.ttl := Nat.le_add_right _ _
    · exact (of_windows_eq (answers.windows_eq (decide_eq_false same) (by simp))).2 failed w running

theorem History.failures_eq (history : c.History calls c') (spares : Spares key calls)
    (until_now : ∀ asked ∈ calls, asked.1 ≤ now)
    (lingers : c.failures key ≠ 0 → c.Lingers key now) :
    c'.failures key = c.failures key := by
  induction history with
  | nil => rfl
  | cons first _ ih =>
    obtain ⟨spared, spares⟩ := List.forall_mem_cons.mp spares
    obtain ⟨le, until_now⟩ := List.forall_mem_cons.mp until_now
    obtain ⟨same, lingers⟩ := first.remembers spared le lingers
    rw [ih spares until_now (same ▸ lingers), same]

theorem Call.Repeats.refl (call : Call) : call.Repeats call := by
  cases call with
  | enter key passed => exact .enter key passed passed
  | noteFailure key failures => exact .noteFailure key failures failures
  | purge => exact .purge

theorem History.unique (first : c.History calls c') (second : c.History calls c'') : c'' = c' := by
  induction first with
  | nil =>
    cases second
    rfl
  | cons answers _ ih =>
    cases second with
    | cons answers' rest' =>
      obtain ⟨_, rfl⟩ := answers.unique (.refl _) answers'
      exact ih rest'

end Counts

/-- Purges that no failure of a key follows can be left out: the other calls about the key then
give the same answers, and none of them comes to the end of the clock. A purge keeps the failures
of a key as long as its window lasts, with one more window after it, so the next failure within
this time counts one more. -/
theorem purges_go_unnoticed (key : String) (history : c.History calls c')
    (ordered : (calls.map Prod.fst).Pairwise (· ≤ ·)) :
    (∀ thinned c₁, Thins key calls thinned → c.History thinned c₁ →
      onKey key thinned = onKey key calls) ∧
    (∀ front now call back c₁, Thins key calls (front ++ (now, call) :: back) →
      c.History front c₁ → call.isOn key = true →
        ∃ answered c₂, answered.Repeats call ∧ c₁.Answers now answered c₂) ∧
    (∀ front now back c₁, calls = front ++ (now, .purge) :: back → c.History front c₁ →
      c₁.Lingers key now → (c₁.purge now).failures key = c₁.failures key) ∧
    ∀ front between now failures back c₁,
      calls = front ++ (between ++ (now, .noteFailure key failures) :: back) →
      c.History front c₁ → Spares key between → c₁.Lingers key now →
        (c₁.failures key).toNat + 1 < UInt32.size →
          failures.toNat = (c₁.failures key).toNat + 1 := by
  have from_start : ((0 : Moment) :: calls.map Prod.fst).Pairwise (· ≤ ·) :=
    List.pairwise_cons.mpr ⟨fun now _ => Nat.zero_le now, ordered⟩
  refine ⟨?same, ?told, ?kept, ?counted⟩
  case same =>
    intro thinned c₁ thins thin
    exact thins.onKey_eq (.refl key 0 calls c) from_start history thin
  case told =>
    intro front now call back c₁ thins thin on
    exact thins.exists_answers (.refl key 0 calls c) from_start history thin on
  case kept =>
    intro front now back c₁ _ _ lingers
    exact failures_purge fun _ => lingers
  case counted =>
    rintro front between now failures back c₁ rfl before spares lingers room
    obtain ⟨c₁', front', rest⟩ := history_append.mp history
    obtain rfl := before.unique front'
    obtain ⟨c₂, between', last⟩ := history_append.mp rest
    have until_now : ∀ asked ∈ between, asked.1 ≤ now := by
      intro asked member
      rw [List.map_append, List.map_append, List.map_cons] at ordered
      have tail := (List.pairwise_append.mp ordered).2.1
      exact (List.pairwise_append.mp tail).2.2 asked.1 (List.mem_map_of_mem member) now (by simp)
    have same := between'.failures_eq spares until_now fun _ => lingers
    cases last with
    | cons noted _ =>
      obtain ⟨rfl, _⟩ := noteFailure_eq noted
      rw [same, toNat_satSucc room]

/-- A loop that fails, is kept by a purge and fails again. The second purge forgets it, and the
third drops a window that would stay if its failures were known. -/
def sweptCalls : List (Moment × Call) :=
  [(0, .enter "loop" true), (1, .noteFailure "loop" 1), (Duration.ofSeconds 7000, .purge),
    (Duration.ofSeconds 7100, .noteFailure "loop" 2), (Duration.ofSeconds 12000, .purge),
    (Duration.ofSeconds 12000, .enter "loop" true), (Duration.ofSeconds 15000, .enter "loop" false),
    (Duration.ofSeconds 16000, .purge), (Duration.ofSeconds 16000, .enter "loop" true)]

def unsweptCalls : List (Moment × Call) :=
  sweptCalls.take 4 ++ [(Duration.ofSeconds 12000, .enter "loop" true),
    (Duration.ofSeconds 15000, .enter "loop" false), (Duration.ofSeconds 16000, .enter "loop" true)]

theorem thins_unsweptCalls : Thins "loop" sweptCalls unsweptCalls := by
  refine .keep (.refl _) (.keep (.refl _) (.keep (.refl _) (.keep (.refl _) (.drop ?_ ?_))))
  · decide
  · refine .keep (.refl _) (.keep (.refl _) (.drop ?_ (.keep (.refl _) .nil)))
    decide

theorem sweptCalls_go_unnoticed :
    ∃ c₁ c₂ c₃ c₄, (new (.ofSeconds 3600) (.ofSeconds 600)).History sweptCalls c₁ ∧
      (new (.ofSeconds 3600) (.ofSeconds 600)).History unsweptCalls c₂ ∧
      c₂.failures "loop" = 2 ∧ c₁.failures "loop" = 0 ∧
      onKey "loop" unsweptCalls = onKey "loop" sweptCalls ∧
      (new (.ofSeconds 3600) (.ofSeconds 600)).History (sweptCalls.take 4) c₃ ∧
      (∃ answered c', Call.Repeats answered (.enter "loop" true) ∧
        c₃.Answers (Duration.ofSeconds 12000) answered c') ∧
      (new (.ofSeconds 3600) (.ofSeconds 600)).History (sweptCalls.take 2) c₄ ∧
      c₄.Lingers "loop" (Duration.ofSeconds 7100) ∧
      (c₄.purge (Duration.ofSeconds 7000)).failures "loop" = c₄.failures "loop" ∧
      (2 : UInt32).toNat = (c₄.failures "loop").toNat + 1 := by
  have replay (calls : List (Moment × Call)) (w : Option Window)
      (replayed : ((calls.foldlM Call.replay? (new (.ofSeconds 3600) (.ofSeconds 600))).map
        fun c => c.windows["loop"]?) = some w) :
      ∃ c, (new (.ofSeconds 3600) (.ofSeconds 600)).History calls c ∧ c.windows["loop"]? = w := by
    obtain ⟨c, replayed, window⟩ := Option.map_eq_some_iff.mp replayed
    exact ⟨c, .of_replay? replayed, window⟩
  obtain ⟨c₁, swept, window₁⟩ := replay sweptCalls (some ⟨0, Duration.ofSeconds 19600⟩)
    (by decide +kernel)
  obtain ⟨c₂, unswept, window₂⟩ := replay unsweptCalls (some ⟨2, Duration.ofSeconds 19600⟩)
    (by decide +kernel)
  obtain ⟨c₃, front, _⟩ := replay (sweptCalls.take 4) (some ⟨2, Duration.ofSeconds 8300⟩)
    (by decide +kernel)
  obtain ⟨c₄, start, window₄⟩ := replay (sweptCalls.take 2) (some ⟨1, Duration.ofSeconds 4200⟩)
    (by decide +kernel)
  have lingers (now : Moment) (early : now < Duration.ofSeconds 7800) : c₄.Lingers "loop" now := by
    intro w running
    rw [window₄] at running
    cases running
    rw [start.durations.1]
    exact early
  have count : c₄.failures "loop" = 1 := failures_of_some window₄
  obtain ⟨same, told, kept, counted⟩ := purges_go_unnoticed "loop" swept (by decide)
  exact ⟨c₁, c₂, c₃, c₄, swept, unswept, failures_of_some window₂, failures_of_some window₁,
    same _ _ thins_unsweptCalls unswept, front,
    told _ _ _ _ _ thins_unsweptCalls front rfl, start, lingers _ (by decide),
    kept _ _ _ _ rfl start (lingers _ (by decide)),
    counted _ [(Duration.ofSeconds 7000, .purge)] _ _ _ _ rfl start (by decide) (lingers _ (by decide))
      (by rw [count]; decide)⟩

end SwapLoops.Cooldown
