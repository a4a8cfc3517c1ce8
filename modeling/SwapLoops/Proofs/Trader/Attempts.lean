import SwapLoops.Proofs.Cooldown.Failures
import SwapLoops.Proofs.Sizing.SpotRates
import SwapLoops.Proofs.Trader.Records

/-! What the attempts of a run do to the cooldown that they share. Only entries, reports and
purges call it, and the failures of a key are counted one by one. -/

namespace SwapLoops

open Cooldown (Call)

def Deed.call? : Deed → Option Call
  | .enters key => some (.enter key true)
  | .reports key failures => some (.noteFailure key failures)
  | .starts _ => none
  | .hands _ _ => none

def Deed.failures? (key : String) : Deed → Option UInt32
  | .reports key' failures => if key' = key then some failures else none
  | .starts _ => none
  | .enters _ => none
  | .hands _ _ => none

def Cooldown.Follows (c : Cooldown) (now : Moment) : Option Call → Cooldown → Prop
  | none, c' => c' = c
  | some call, c' => c.Answers now call c'

theorem Trader.follows_of_advances {t t' : Trader} {now : Moment} {a a' : Attempt}
    (advances : t.Advances now a a' t') :
    t.cooldown.Follows now ((a.deed? a').bind Deed.call?) t'.cooldown := by
  cases advances with
  | enter entered => exact entered
  | report noted => exact noted
  | holdBack entered =>
    rcases Cooldown.enter_cases entered with ⟨_, same, _⟩ | ⟨passed, _⟩
    · exact same
    · cases passed
  | quote | size | findNone | refuse | hand | wait | rest => rfl

namespace Desk

variable {start d d' : Desk} {now : Moment} {event : Event} {steps front back : List Step}
  {key : String}

def Step.call? (s : Step) : Option Call :=
  match s.event with
  | .purge => some .purge
  | _ => s.deed?.bind fun (_, deed) => deed.call?

theorem Moves.follows (moves : d.Moves now event d') :
    d.trader.cooldown.Follows now (Step.call? ⟨d, now, event, d'⟩) d'.trader.cooldown := by
  cases moves with
  | @advance number a a' trader present advances =>
    have deed := deed?_of_advance now a' trader present
    have follows := Trader.follows_of_advances advances
    rw [show Step.call? _ = (a.deed? a').bind Deed.call? by
      rw [Step.call?, deed, Option.bind_map]
      rfl]
    exact follows
  | advanceNone absent =>
    rw [show Step.call? _ = none by simp [Step.call?, Step.deed?, absent]]
    rfl
  | start | answer | answerNone | quote | deliver | sweep | trade | purge => rfl

theorem call?_eq {s : Step} (other : s.event ≠ .purge) :
    s.call? = s.deed?.bind fun (_, deed) => deed.call? := by
  unfold Step.call?
  split
  · next purge => exact absurd purge other
  · rfl

def reportsOn (key : String) (steps : List Step) : List (Nat × UInt32) :=
  (deeds steps).filterMap fun (number, deed) => (deed.failures? key).map (number, ·)

theorem reportsOn_append :
    reportsOn key (front ++ back) = reportsOn key front ++ reportsOn key back := by
  rw [reportsOn, deeds_append, List.filterMap_append, reportsOn, reportsOn]

theorem reportsOn_singleton {s : Step} :
    reportsOn key [s] = (s.deed?.bind fun (number, deed) =>
      (deed.failures? key).map (number, ·)).toList := by
  cases done : s.deed? with
  | none => simp [reportsOn, deeds, done]
  | some deed =>
    cases reported : deed.2.failures? key with
    | none => simp [reportsOn, deeds, done, reported]
    | some failures => simp [reportsOn, deeds, done, reported]

def Step.drops (key : String) (s : Step) : Bool :=
  match s.event with
  | .purge => s.before.trader.cooldown.windows[key]?.isSome &&
      s.after.trader.cooldown.windows[key]?.isNone
  | _ => false

theorem failures_of_not_drops (kept : Step.drops key ⟨d, now, .purge, d.purge now⟩ = false) :
    (d.purge now).trader.cooldown.failures key = d.trader.cooldown.failures key := by
  rcases Cooldown.windows_purge_or d.trader.cooldown key now with same | gone
  · rw [Cooldown.failures, Cooldown.failures]
    exact congrArg (fun w => (w.map Window.failures).getD 0) same
  · refine (Cooldown.failures_of_none gone).trans ?_
    cases known : d.trader.cooldown.windows[key]? with
    | none => exact (Cooldown.failures_of_none known).symm
    | some w =>
      have drops : Step.drops key ⟨d, now, .purge, d.purge now⟩ = true := by
        rw [Step.drops, Bool.and_eq_true]
        exact ⟨known ▸ rfl, Option.isNone_iff_eq_none.mpr gone⟩
      rw [drops] at kept
      cases kept

/-- The reports of a key are counted on, one by one, from the failures that were known. -/
structure Tallies (key : String) (c : Cooldown) (reports : List (Nat × UInt32))
    (c' : Cooldown) : Prop where
  failures_eq : (c'.failures key).toNat = (c.failures key).toNat + reports.length
  counted : reports.map (fun (_, failures) => failures.toNat) =
    List.range' ((c.failures key).toNat + 1) reports.length

section Tallies

variable {c c' c'' : Cooldown} {reports later : List (Nat × UInt32)} {number : Nat}

theorem tallies_nil (same : c'.failures key = c.failures key) : Tallies key c [] c' :=
  ⟨congrArg UInt32.toNat same, rfl⟩

theorem tallies_singleton (counts : c.Counts key) (backoff : c.backoff = Cooldown.defaultBackoff)
    (same : c'.failures key = Cooldown.satSucc (c.failures key)) :
    Tallies key c [(number, c'.failures key)] c' := by
  have next : (c'.failures key).toNat = (c.failures key).toNat + 1 := by
    rw [same, counts.toNat_satSucc backoff]
  exact ⟨next, congrArg (fun n => [n]) next⟩

theorem Tallies.append (front : Tallies key c reports c') (back : Tallies key c' later c'') :
    Tallies key c (reports ++ later) c'' := by
  refine ⟨?_, ?_⟩
  · rw [back.failures_eq, front.failures_eq, List.length_append, Nat.add_assoc]
  · rw [List.map_append, front.counted, back.counted, front.failures_eq, List.length_append,
      Nat.add_right_comm, List.range'_append_1]

theorem tallies_of_deed {deed : Deed} (counts : c.Counts key)
    (backoff : c.backoff = Cooldown.defaultBackoff) (follows : c.Follows now deed.call? c') :
    Tallies key c ((deed.failures? key).map (number, ·)).toList c' := by
  cases deed with
  | starts | hands => exact tallies_nil (congrArg (Cooldown.failures · key) follows)
  | enters key' => exact tallies_nil (Cooldown.Answers.failures_of_enter follows)
  | reports key' failures =>
    obtain ⟨counted, after, _⟩ := Cooldown.noteFailure_eq follows
    by_cases same : key' = key
    · subst same
      have noted : c'.failures key' = failures := by
        rw [after, Cooldown.failures_set_self]
      rw [Deed.failures?, if_pos rfl, ← noted]
      exact tallies_singleton counts backoff (noted.trans counted)
    · rw [Deed.failures?, if_neg same, after]
      exact tallies_nil (Cooldown.failures_set_of_ne (Ne.symm same))

end Tallies

theorem Moves.tallies (moves : d.Moves now event d') (counts : d.trader.cooldown.Counts key)
    (backoff : d.trader.cooldown.backoff = Cooldown.defaultBackoff)
    (kept : Step.drops key ⟨d, now, event, d'⟩ = false) :
    Tallies key d.trader.cooldown (reportsOn key [⟨d, now, event, d'⟩]) d'.trader.cooldown := by
  by_cases purge : event = .purge
  · subst purge
    cases moves
    exact tallies_nil (failures_of_not_drops kept)
  -- beside purges only a deed can call the cooldown
  · have follows := moves.follows
    rw [call?_eq purge] at follows
    cases done : Step.deed? ⟨d, now, event, d'⟩ with
    | none =>
      rw [done] at follows
      rw [reportsOn_singleton, done]
      exact tallies_nil (congrArg (Cooldown.failures · key) follows)
    | some deed =>
      rw [done] at follows
      rw [reportsOn_singleton, done]
      exact tallies_of_deed counts backoff follows

theorem Moves.counts (moves : d.Moves now event d') (counts : d.trader.cooldown.Counts key) :
    d'.trader.cooldown.Counts key ∧ d'.trader.cooldown.backoff = d.trader.cooldown.backoff := by
  have follows := moves.follows
  cases called : Step.call? ⟨d, now, event, d'⟩ with
  | none =>
    rw [called] at follows
    rw [show d'.trader.cooldown = d.trader.cooldown from follows]
    exact ⟨counts, rfl⟩
  | some call =>
    rw [called] at follows
    exact ⟨counts.answers follows, follows.durations.2⟩

theorem Runs.counts (run : Runs start steps d) (counts : start.trader.cooldown.Counts key) :
    d.trader.cooldown.Counts key ∧ d.trader.cooldown.backoff = start.trader.cooldown.backoff := by
  induction run with
  | nil => exact ⟨counts, rfl⟩
  | concat _ stepped ih =>
    have next := (moves_of_step stepped).counts ih.1
    exact ⟨next.1, next.2.trans ih.2⟩

theorem Runs.tallies (run : Runs start steps d) (counts : start.trader.cooldown.Counts key)
    (backoff : start.trader.cooldown.backoff = Cooldown.defaultBackoff)
    (kept : ∀ s ∈ steps, s.drops key = false) :
    Tallies key start.trader.cooldown (reportsOn key steps) d.trader.cooldown := by
  induction run with
  | nil => exact tallies_nil rfl
  | @concat steps d d' now event run stepped ih =>
    have front := ih fun s member => kept s (List.mem_append_left _ member)
    have reached := run.counts counts
    have last := (moves_of_step stepped).tallies reached.1 (reached.2.trans backoff)
      (kept ⟨d, now, event, d'⟩ (List.mem_append_right _ (List.mem_singleton_self _)))
    rw [reportsOn_append]
    exact front.append last

theorem Runs.cooldown_eq {number : Nat} {path : List Pair} {s : Step} (run : Runs start steps d)
    (only : deedsOf number steps = [.starts path]) (member : s ∈ steps)
    (own : s.event = .advance number) : s.after.trader.cooldown = s.before.trader.cooldown := by
  obtain ⟨before, now, event, after⟩ := s
  have moves : before.Moves now event after := run.moves member
  cases own
  cases moves with
  | advanceNone absent => rfl
  | @advance _ a a' trader present advances =>
    have deed := deed?_of_advance now a' trader present
    have follows := Trader.follows_of_advances advances
    cases done : a.deed? a' with
    | none =>
      rw [done] at follows
      exact follows
    | some its =>
      rw [done] at deed follows
      have starts := mem_deedsOf member deed
      rw [only, List.mem_singleton] at starts
      rw [starts] at follows
      exact follows

theorem Runs.exists_answers {number : Nat} {deed : Deed} {call : Call}
    (run : Runs start steps d) (done : deed ∈ deedsOf number steps)
    (calls : deed.call? = some call) :
    ∃ s ∈ steps, s.deed? = some (number, deed) ∧
      s.before.trader.cooldown.Answers s.now call s.after.trader.cooldown := by
  obtain ⟨s, member, its⟩ := exists_of_mem_deedsOf done
  refine ⟨s, member, its, ?_⟩
  have follows := (run.moves member).follows
  have running : s.event ≠ .purge := by
    intro purge
    rw [Step.deed?, purge] at its
    cases its
  simp only [call?_eq running, its, Option.bind_some, calls] at follows
  exact follows

theorem Tallies.number_eq {c c' : Cooldown} {reports : List (Nat × UInt32)} {m n : Nat}
    {failures : UInt32} (tallies : Tallies key c reports c') (one : (m, failures) ∈ reports)
    (other : (n, failures) ∈ reports) : m = n := by
  have distinct : (reports.map fun (_, failures) => failures.toNat).Nodup :=
    tallies.counted ▸ List.nodup_range'
  exact congrArg Prod.fst (List.inj_on_of_nodup_map distinct one other rfl)

/-- In every run each order pays by its margin at the gas prices that go with it. An attempt hands
over one order at most, after the cooldown let its key pass, and one that ends before that has
left the cooldown alone. As long as no purge drops a key, its failures are those reported, each
with a count of its own. -/
theorem attempts_keep_account {base : Address} {passes : Nat} {minReceive : Word}
    (run : (new (.start base passes minReceive)).Runs steps d) :
    (∀ number order gas, .hands order gas ∈ deedsOf number steps →
      order.Pays base minReceive gas) ∧
    (∀ number, ∃ order gas failures,
      deedsOf number steps <+: Deed.toHand order gas ++ [.reports order.key failures]) ∧
    (∀ number deed call, deed ∈ deedsOf number steps → deed.call? = some call →
      ∃ s ∈ steps, s.deed? = some (number, deed) ∧
        s.before.trader.cooldown.Answers s.now call s.after.trader.cooldown) ∧
    (∀ number outcome, d.attempts[number]? = some (.ended outcome) →
      outcome = .noProfitableSize ∨ outcome = .invalidPath ∨ outcome = .coolingDown →
        ∀ s ∈ steps, s.event = .advance number →
          s.after.trader.cooldown = s.before.trader.cooldown) ∧
    (∀ number error failures, d.attempts[number]? = some (.ended (.failed error failures)) →
      ∃ order gas, deedsOf number steps =
        Deed.toHand order gas ++ [.reports order.key failures]) ∧
    (∀ key back last, d.Runs back last →
      (∀ s ∈ back, s.drops key = false) →
      Tallies key d.trader.cooldown (reportsOn key back) last.trader.cooldown ∧
        ∀ m n failures, (m, failures) ∈ reportsOn key back → (n, failures) ∈ reportsOn key back →
          m = n) := by
  refine ⟨?_, ?_, ?_, ?_, ?_, ?_⟩
  · intro number order gas hands
    exact (run.lived number).pays hands
  · intro number
    obtain ⟨order, gas, failures, before, _⟩ := (run.lived number).isPrefix
    exact ⟨order, gas, failures, before⟩
  · exact fun number deed call => run.exists_answers
  · intro number outcome ended idle s member own
    have lived := run.lived number
    rw [ended] at lived
    have only : ∃ path, deedsOf number steps = [.starts path] := by
      rcases idle with rfl | rfl | rfl
      · exact lived
      · exact lived
      · exact lived
    obtain ⟨path, only⟩ := only
    exact run.cooldown_eq only member own
  · intro number error failures ended
    have lived := run.lived number
    rw [ended] at lived
    obtain ⟨order, gas, all, _⟩ := lived
    exact ⟨order, gas, all⟩
  · intro key back last onward kept
    obtain ⟨counts, backoff⟩ := run.counts (Cooldown.counts_new _ _ key)
    have tallies := onward.tallies counts backoff kept
    exact ⟨tallies, fun m n failures => tallies.number_eq⟩

/-- Two attempts at one loop. The gas price rises in between; one of them is held back, the other
one fails, and so does a third one after the window and a purge. -/
def rivalEvents : List (Moment × Event) :=
  [(0, .start doublingPath), (0, .start doublingPath),
    (1, .advance 0), (1, .advance 1), (2, .advance 0), (2, .advance 1),
    (3, .quote ⟨6000000000, 20000000000⟩),
    (4, .advance 0), (5, .advance 1), (6, .advance 0),
    (7, .answer 0 (.error .timeout)), (8, .advance 0),
    (Duration.ofSeconds 4300, .purge), (Duration.ofSeconds 4300, .start doublingPath),
    (Duration.ofSeconds 4300, .advance 2), (Duration.ofSeconds 4300, .advance 2),
    (Duration.ofSeconds 4300, .advance 2), (Duration.ofSeconds 4300, .advance 2),
    (Duration.ofSeconds 4301, .answer 2 (.error .invalidPath)),
    (Duration.ofSeconds 4301, .advance 2)]

def rivalOrder : TradeOrder := ⟨1, 40960000000000000000, 41653136416631347549, doublingPath⟩

theorem rivals_keep_account :
    ∃ steps d, (new (.start 1 5 100000000000000)).Runs steps d ∧
      deedsOf 0 steps = Deed.toHand rivalOrder .initial ++ [.reports rivalOrder.key 1] ∧
      rivalOrder.Pays 1 100000000000000 .initial ∧
      d.attempts[1]? = some (.ended .coolingDown) ∧
      (∀ s ∈ steps, s.event = .advance 1 →
        s.after.trader.cooldown = s.before.trader.cooldown) ∧
      reportsOn rivalOrder.key steps = [(0, 1), (2, 2)] ∧
      Tallies rivalOrder.key Cooldown.initial [(0, 1), (2, 2)] d.trader.cooldown := by
  have seen : (rivalEvents.foldlM act? ([], new (.start 1 5 100000000000000))).any
      (fun (steps, d) => deedsOf 0 steps =
          Deed.toHand rivalOrder .initial ++ [.reports rivalOrder.key 1] ∧
        d.attempts[1]? = some (.ended .coolingDown) ∧
        reportsOn rivalOrder.key steps = [(0, 1), (2, 2)] ∧
        ∀ s ∈ steps, s.drops rivalOrder.key = false) = true := by
    decide +kernel
  obtain ⟨⟨steps, d⟩, acts, seen⟩ := (Option.any_eq_true ..).mp seen
  obtain ⟨first, second, reports, kept⟩ := of_decide_eq_true seen
  have run : (new (.start 1 5 100000000000000)).Runs steps d := runs_of_act? .nil acts
  obtain ⟨pays, _, _, idle, _, _⟩ := attempts_keep_account run
  have begun : (new (.start 1 5 100000000000000)).Runs [] (new (.start 1 5 100000000000000)) := .nil
  obtain ⟨_, _, _, _, _, counted⟩ := attempts_keep_account begun
  refine ⟨steps, d, run, first, pays 0 _ _ ?_, second, idle 1 _ second (by simp), reports, ?_⟩
  · rw [first]
    decide
  · exact reports ▸ (counted rivalOrder.key steps d run kept).1

end Desk

end SwapLoops
