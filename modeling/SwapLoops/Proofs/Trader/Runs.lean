import Mathlib
import SwapLoops.Trader.Desk

/-! Runs of a desk. Its attempts take their steps in any order and at any moments, and gas
prices, deliveries, sweeps and purges come between them. A run keeps a record of what the
attempts did. -/

namespace SwapLoops

namespace Trader

variable {t t' : Trader} {now : Moment} {a a' : Attempt}

inductive Advances (t : Trader) (now : Moment) : Attempt → Attempt → Trader → Prop
  | quote (path : List Pair) : Advances t now (.found path) (.quoted path t.gas) t
  | size {path : List Pair} {gas : GasQuote} {size : SizedTrade}
      (sized : Sizing.sizeFor t.base t.minReceive path gas = .profitable size) :
      Advances t now (.quoted path gas) (.sized path gas size) t
  | findNone {path : List Pair} {gas : GasQuote} {trials : Nat}
      (sized : Sizing.sizeFor t.base t.minReceive path gas = .noProfitableSize trials) :
      Advances t now (.quoted path gas) (.ended .noProfitableSize) t
  | refuse {path : List Pair} {gas : GasQuote}
      (sized : Sizing.sizeFor t.base t.minReceive path gas = .invalidPath) :
      Advances t now (.quoted path gas) (.ended .invalidPath) t
  | enter {path : List Pair} {gas : GasQuote} {size : SizedTrade} {cooldown : Cooldown}
      (entered : t.cooldown.enter (pathKey (path.map Pair.address)) now = .ok (true, cooldown)) :
      Advances t now (.sized path gas size) (.entered path gas size) { t with cooldown }
  | holdBack {path : List Pair} {gas : GasQuote} {size : SizedTrade} {cooldown : Cooldown}
      (entered : t.cooldown.enter (pathKey (path.map Pair.address)) now = .ok (false, cooldown)) :
      Advances t now (.sized path gas size) (.ended .coolingDown) { t with cooldown }
  | hand (path : List Pair) (gas : GasQuote) (size : SizedTrade) :
      Advances t now (.entered path gas size)
        (.handed ⟨t.base, size.amountIn, size.amountOut, path⟩ gas) t
  | report {order : TradeOrder} {error : TradeError} {failures : UInt32} {cooldown : Cooldown}
      (noted : t.cooldown.noteFailure order.key now = .ok (failures, cooldown)) :
      Advances t now (.refused order error) (.ended (.failed error failures)) { t with cooldown }
  | wait (order : TradeOrder) (gas : GasQuote) :
      Advances t now (.handed order gas) (.handed order gas) t
  | rest (outcome : Outcome) : Advances t now (.ended outcome) (.ended outcome) t

theorem advances_of_advance (advanced : t.advance now a = .ok (a', t')) :
    t.Advances now a a' t' := by
  cases a with
  | found path =>
    cases advanced
    exact .quote path
  | quoted path gas =>
    simp only [advance] at advanced
    split at advanced
    · next sized =>
      cases advanced
      exact .size sized
    · next sized =>
      cases advanced
      exact .findNone sized
    · next sized =>
      cases advanced
      exact .refuse sized
  | sized path gas size =>
    simp only [advance] at advanced
    split at advanced
    · next entered =>
      cases advanced
      exact .enter entered
    · next entered =>
      cases advanced
      exact .holdBack entered
    · cases advanced
  | entered path gas size =>
    cases advanced
    exact .hand path gas size
  | handed order gas =>
    cases advanced
    exact .wait order gas
  | refused order error =>
    simp only [advance] at advanced
    split at advanced
    · next noted =>
      cases advanced
      exact .report noted
    · cases advanced
  | ended outcome =>
    cases advanced
    exact .rest outcome

end Trader

/-- Something that an attempt does, and that others may rely on. -/
inductive Deed
  | starts (path : List Pair)
  | enters (key : String)
  | hands (order : TradeOrder) (gas : GasQuote)
  | reports (key : String) (failures : UInt32)
deriving DecidableEq, Repr

def Attempt.deed? : Attempt → Attempt → Option Deed
  | .sized path _ _, .entered _ _ _ => some (.enters (pathKey (path.map Pair.address)))
  | .entered _ _ _, .handed order gas => some (.hands order gas)
  | .refused order _, .ended (.failed _ failures) => some (.reports order.key failures)
  | _, _ => none

namespace Desk

structure Step where
  before : Desk
  now : Moment
  event : Event
  after : Desk

inductive Runs (start : Desk) : List Step → Desk → Prop
  | nil : Runs start [] start
  | concat {steps : List Step} {d d' : Desk} {now : Moment} {event : Event}
      (run : Runs start steps d) (moves : d.step now event = .ok d') :
      Runs start (steps ++ [⟨d, now, event, d'⟩]) d'

variable {start d d' : Desk} {now : Moment} {event : Event} {steps : List Step}

inductive Moves (d : Desk) (now : Moment) : Event → Desk → Prop
  | start (path : List Pair) : Moves d now (.start path) (d.start path)
  | advance {number : Nat} {a a' : Attempt} {trader : Trader}
      (present : d.attempts[number]? = some a) (advances : d.trader.Advances now a a' trader) :
      Moves d now (.advance number)
        { d with trader, attempts := d.attempts.insert number a' }
  | answer {number : Nat} {a : Attempt} (answer : Except TradeError TradeReport)
      (present : d.attempts[number]? = some a) :
      Moves d now (.answer number answer)
        { d with attempts := d.attempts.insert number (a.answered answer) }
  | advanceNone {number : Nat} (absent : d.attempts[number]? = none) :
      Moves d now (.advance number) d
  | answerNone {number : Nat} (answer : Except TradeError TradeReport)
      (absent : d.attempts[number]? = none) : Moves d now (.answer number answer) d
  | quote (gas : GasQuote) : Moves d now (.quote gas) (d.quote gas)
  | deliver (updates : List Update) : Moves d now (.deliver updates) (d.deliver updates).1
  | sweep (seconds : Seconds) : Moves d now (.sweep seconds) (d.sweep seconds)
  | trade (market : Market) : Moves d now (.trade market) (d.trade market)
  | purge : Moves d now .purge (d.purge now)

theorem moves_of_step (stepped : d.step now event = .ok d') : d.Moves now event d' := by
  cases event with
  | start path =>
    cases stepped
    exact .start path
  | advance number =>
    simp only [step, Desk.advance] at stepped
    split at stepped
    · next absent =>
      cases stepped
      exact .advanceNone absent
    · next a present =>
      split at stepped
      · next advanced =>
        cases stepped
        exact .advance present (Trader.advances_of_advance advanced)
      · cases stepped
  | answer number answer =>
    simp only [step, Desk.answer] at stepped
    split at stepped
    · next absent =>
      cases stepped
      exact .answerNone answer absent
    · next a present =>
      cases stepped
      exact .answer answer present
  | quote gas =>
    cases stepped
    exact .quote gas
  | deliver updates =>
    cases stepped
    exact .deliver updates
  | sweep seconds =>
    cases stepped
    exact .sweep seconds
  | trade market =>
    cases stepped
    exact .trade market
  | purge =>
    cases stepped
    exact .purge

theorem Runs.trans {later : List Step} (run : Runs start steps d) (onward : d.Runs later d') :
    Runs start (steps ++ later) d' := by
  induction onward with
  | nil => rwa [List.append_nil]
  | concat _ moves ih =>
    rw [← List.append_assoc]
    exact .concat ih moves

def act? (reached : List Step × Desk) (happens : Moment × Event) : Option (List Step × Desk) :=
  match reached.2.step happens.1 happens.2 with
  | .ok d => some (reached.1 ++ [⟨reached.2, happens.1, happens.2, d⟩], d)
  | .error _ => none

theorem runs_of_act? {reached acted : List Step × Desk} {events : List (Moment × Event)}
    (run : Runs start reached.1 reached.2) (acts : events.foldlM act? reached = some acted) :
    Runs start acted.1 acted.2 := by
  induction events generalizing reached with
  | nil =>
    cases acts
    exact run
  | cons happens events ih =>
    obtain ⟨next, first, rest⟩ := Option.bind_eq_some_iff.mp acts
    refine ih ?_ rest
    unfold act? at first
    split at first
    · next stepped =>
      cases first
      exact .concat run stepped
    · cases first

theorem Runs.moves {s : Step} (run : Runs start steps d) (member : s ∈ steps) :
    s.before.Moves s.now s.event s.after := by
  induction run with
  | nil => exact absurd member List.not_mem_nil
  | concat run stepped ih =>
    rcases List.mem_append.mp member with earlier | last
    · exact ih earlier
    · obtain rfl := List.mem_singleton.mp last
      exact moves_of_step stepped

section Attempts

variable {number other : Nat} {a : Attempt}

theorem attempts_insert_self : (d.attempts.insert number a)[number]? = some a :=
  Std.ExtTreeMap.getElem?_insert_self

theorem attempts_insert_of_ne (differ : number ≠ other) :
    (d.attempts.insert other a)[number]? = d.attempts[number]? := by
  rw [Std.ExtTreeMap.getElem?_insert, if_neg]
  rw [Std.LawfulEqCmp.compare_eq_iff_eq]
  exact differ.symm

def Numbered (d : Desk) : Prop := ∀ number, d.started ≤ number → d.attempts[number]? = none

theorem numbered_new (t : Trader) : (new t).Numbered :=
  fun _ _ => Std.ExtTreeMap.getElem?_empty

theorem Numbered.insert (numbered : d.Numbered) (present : d.attempts[other]? = some a)
    {a' : Attempt} (later : d.started ≤ number) :
    (d.attempts.insert other a')[number]? = none := by
  rw [attempts_insert_of_ne]
  · exact numbered number later
  · rintro rfl
    rw [numbered number later] at present
    cases present

theorem Moves.numbered (moves : d.Moves now event d') (numbered : d.Numbered) : d'.Numbered := by
  cases moves with
  | start path =>
    intro number later
    refine (attempts_insert_of_ne (Nat.ne_of_gt later)).trans (numbered number ?_)
    exact Nat.le_of_succ_le later
  | advance present _ => exact fun _ later => numbered.insert present later
  | answer answer present => exact fun _ later => numbered.insert present later
  | advanceNone | answerNone | quote | deliver | sweep | trade | purge => exact numbered

theorem Runs.numbered (run : Runs start steps d) (numbered : start.Numbered) : d.Numbered := by
  induction run with
  | nil => exact numbered
  | concat _ stepped ih => exact (moves_of_step stepped).numbered ih

end Attempts

def Step.deed? (s : Step) : Option (Nat × Deed) :=
  match s.event with
  | .start path => some (s.before.started, .starts path)
  | .advance number =>
    match s.before.attempts[number]?, s.after.attempts[number]? with
    | some a, some a' => (a.deed? a').map (number, ·)
    | _, _ => none
  | _ => none

def deeds (steps : List Step) : List (Nat × Deed) := steps.filterMap Step.deed?

def deedsOf (number : Nat) (steps : List Step) : List Deed :=
  (deeds steps).filterMap fun (other, deed) => if other = number then some deed else none

section Deeds

variable {number other : Nat} {a a' : Attempt} {trader : Trader} {s : Step} {deed : Option Deed}

theorem deeds_append (front back : List Step) : deeds (front ++ back) = deeds front ++ deeds back :=
  List.filterMap_append

theorem deedsOf_append (front back : List Step) :
    deedsOf number (front ++ back) = deedsOf number front ++ deedsOf number back := by
  rw [deedsOf, deeds_append, List.filterMap_append, deedsOf, deedsOf]

theorem mem_deedsOf {deed : Deed} {steps : List Step} (member : s ∈ steps)
    (done : s.deed? = some (number, deed)) : deed ∈ deedsOf number steps := by
  refine List.mem_filterMap.mpr ⟨(number, deed), List.mem_filterMap.mpr ⟨s, member, done⟩, ?_⟩
  exact if_pos rfl

theorem exists_of_mem_deedsOf {deed : Deed} {steps : List Step}
    (done : deed ∈ deedsOf number steps) : ∃ s ∈ steps, s.deed? = some (number, deed) := by
  obtain ⟨⟨other, did⟩, member, its⟩ := List.mem_filterMap.mp done
  obtain ⟨s, present, same⟩ := List.mem_filterMap.mp member
  dsimp only at its
  split_ifs at its with own
  cases its
  exact ⟨s, present, own ▸ same⟩

theorem deedsOf_self (done : s.deed? = deed.map (number, ·)) :
    deedsOf number [s] = deed.toList := by
  cases deed with
  | none => simp [deedsOf, deeds, done]
  | some deed => simp [deedsOf, deeds, done]

theorem deedsOf_of_ne (done : s.deed? = deed.map (other, ·)) (differ : number ≠ other) :
    deedsOf number [s] = [] := by
  cases deed with
  | none => simp [deedsOf, deeds, done]
  | some deed => simp [deedsOf, deeds, done, differ.symm]

theorem deed?_of_advance (now : Moment) (a' : Attempt) (trader : Trader)
    (present : d.attempts[number]? = some a) :
    Step.deed? ⟨d, now, .advance number,
      { d with trader, attempts := d.attempts.insert number a' }⟩ =
        (a.deed? a').map (number, ·) := by
  simp only [Step.deed?, present, attempts_insert_self]

inductive Changes (d : Desk) (now : Moment) (number : Nat) : Option Attempt → List Deed → Prop
  | keep : Changes d now number d.attempts[number]? []
  | start {path : List Pair} (next : number = d.started) :
      Changes d now number (some (.found path)) [.starts path]
  | advance {a a' : Attempt} {trader : Trader} (present : d.attempts[number]? = some a)
      (advances : d.trader.Advances now a a' trader) :
      Changes d now number (some a') (a.deed? a').toList
  | answer {a : Attempt} (answer : Except TradeError TradeReport)
      (present : d.attempts[number]? = some a) :
      Changes d now number (some (a.answered answer)) []

theorem Moves.changes (moves : d.Moves now event d') (number : Nat) :
    d.Changes now number d'.attempts[number]? (deedsOf number [⟨d, now, event, d'⟩]) := by
  cases moves with
  | start path =>
    have starts : Step.deed? ⟨d, now, .start path, d.start path⟩ =
      (some (.starts path)).map (d.started, ·) := rfl
    by_cases same : number = d.started
    · rw [deedsOf_self (same ▸ starts), Desk.start, ← same, attempts_insert_self]
      exact .start same
    · rw [deedsOf_of_ne starts same, Desk.start, attempts_insert_of_ne same]
      exact .keep
  | @advance other a a' trader present advances =>
    have deed := deed?_of_advance now a' trader present
    by_cases same : number = other
    · subst same
      rw [deedsOf_self deed, attempts_insert_self]
      exact .advance present advances
    · rw [deedsOf_of_ne deed same, attempts_insert_of_ne same]
      exact .keep
  | @answer other a answer present =>
    rw [show deedsOf number _ = [] from rfl]
    by_cases same : number = other
    · subst same
      rw [attempts_insert_self]
      exact .answer answer present
    · rw [attempts_insert_of_ne same]
      exact .keep
  | advanceNone absent =>
    rw [show deedsOf number _ = [] by simp [deedsOf, deeds, Step.deed?, absent]]
    exact .keep
  | answerNone | quote | deliver | sweep | trade | purge => exact .keep

end Deeds

end Desk

end SwapLoops
