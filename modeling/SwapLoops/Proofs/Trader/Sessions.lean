import SwapLoops.Proofs.Cooldown.Windows
import SwapLoops.Proofs.Trader.Runs
import SwapLoops.Trader.Session

/-! Whatever a session does is a run of its desk. -/

namespace SwapLoops.Session

open Cooldown (bind_eq_ok)

variable {Memory : Type} {s s' s'' : Session Memory} {now : Now} {number : Nat}

def Reaches (s s' : Session Memory) : Prop := ∃ steps, s.desk.Runs steps s'.desk

theorem Reaches.refl (s : Session Memory) : s.Reaches s := ⟨[], .nil⟩

theorem Reaches.trans (first : s.Reaches s') (second : s'.Reaches s'') : s.Reaches s'' := by
  obtain ⟨steps, run⟩ := first
  obtain ⟨later, onward⟩ := second
  exact ⟨steps ++ later, run.trans onward⟩

theorem reaches_of_step (moment : Moment) (event : Desk.Event)
    (moves : s.desk.step moment event = .ok s'.desk) : s.Reaches s' :=
  ⟨_, Desk.Runs.nil.concat moves⟩

theorem reaches_of_desk_eq (same : s'.desk = s.desk) : s.Reaches s' :=
  ⟨[], same ▸ .nil⟩

theorem reaches_advance (advanced : s.advance now number = .ok s') : s.Reaches s' := by
  obtain ⟨desk, moves, done⟩ := bind_eq_ok advanced
  cases done
  exact reaches_of_step now.moment (.advance number) moves

theorem reaches_answer {answer : Except TradeError TradeReport}
    (answered : s.answer now number answer = .ok s') : s.Reaches s' := by
  have first : s.Reaches { s with desk := s.desk.answer number answer } :=
    reaches_of_step now.moment (.answer number answer) rfl
  exact first.trans (reaches_advance answered)

theorem reaches_execute (executed : s.execute now number = .ok s') : s.Reaches s' := by
  unfold execute at executed
  split at executed
  · next order gas _ =>
    have traded (market : Market) (memory : Memory) :
        s.Reaches { s.withMarket market with memory } :=
      reaches_of_step now.moment (.trade market) rfl
    dsimp only at executed
    split at executed
    · exact (traded _ _).trans (reaches_answer executed)
    · exact (traded _ _).trans (reaches_answer executed)
    · cases executed
      exact reaches_of_step now.moment (.trade _) rfl
  · cases executed
    exact .refl s

theorem reaches_foldlM {α : Type} {f : Session Memory → α → Except ClockError (Session Memory)}
    (each : ∀ s s' a, f s a = .ok s' → s.Reaches s') {l : List α}
    (folded : l.foldlM f s = .ok s') : s.Reaches s' := by
  induction l generalizing s with
  | nil =>
    cases folded
    exact .refl _
  | cons a l ih =>
    obtain ⟨next, first, rest⟩ := bind_eq_ok folded
    exact (each s next a first).trans (ih rest)

theorem reaches_proceed (proceeded : s.proceed now number = .ok s') : s.Reaches s' := by
  obtain ⟨next, advanced, executed⟩ := bind_eq_ok proceeded
  have first : s.Reaches next := reaches_foldlM (fun _ _ _ => reaches_advance) advanced
  exact first.trans (reaches_execute executed)

theorem reaches_start (s : Session Memory) (path : List Pair) : s.Reaches (s.start path).2 :=
  reaches_of_step 0 (.start path) rfl

theorem look_cases (s : Session Memory) (now : Now) :
    (PricedLoop.strongestIn s.desk.trader.base s.desk.trader.passes RateGraph.maxHops
        (s.desk.trader.market.sweep now.seconds).1 = none ∧
      s.look now = (none, { s with desk := s.desk.sweep now.seconds })) ∨
    ∃ l, PricedLoop.strongestIn s.desk.trader.base s.desk.trader.passes RateGraph.maxHops
        (s.desk.trader.market.sweep now.seconds).1 = some l ∧
      s.look now = (some s.desk.started,
        { s with desk := (s.desk.sweep now.seconds).start l.pairs }) := by
  cases found : PricedLoop.strongestIn s.desk.trader.base s.desk.trader.passes RateGraph.maxHops
      (s.desk.trader.market.sweep now.seconds).1 with
  | none =>
    refine Or.inl ⟨rfl, ?_⟩
    simp only [look, Trader.strongestLoop, found]
    rfl
  | some l =>
    refine Or.inr ⟨l, rfl, ?_⟩
    simp only [look, Trader.strongestLoop, found]
    rfl

theorem reaches_look (s : Session Memory) (now : Now) : s.Reaches (s.look now).2 := by
  have swept : s.Reaches { s with desk := s.desk.sweep now.seconds } :=
    reaches_of_step now.moment (.sweep now.seconds) rfl
  rcases look_cases s now with ⟨_, looked⟩ | ⟨l, _, looked⟩
  · rw [looked]
    exact swept
  · rw [looked]
    exact swept.trans (reaches_start _ l.pairs)

theorem reaches_expire {moment : Moment} {waiting : List (Nat × Moment)}
    (expired : s.expire now moment waiting = .ok s') : s.Reaches s' := by
  induction waiting generalizing s with
  | nil =>
    cases expired
    exact reaches_of_desk_eq rfl
  | cons wait rest ih =>
    unfold expire at expired
    split_ifs at expired
    · cases expired
      exact reaches_of_desk_eq rfl
    · obtain ⟨next, answered, onward⟩ := bind_eq_ok expired
      exact (reaches_answer answered).trans (ih onward)

theorem reaches_passTo {moment : Moment} (passed : s.passTo now moment = .ok s') :
    s.Reaches s' := by
  have first : s.Reaches { s with timer := max s.timer moment } := reaches_of_desk_eq rfl
  exact first.trans (reaches_expire passed)

theorem reaches_proceedAll {numbers : List (Option Nat)}
    (proceeded : s.proceedAll now numbers = .ok s') : s.Reaches s' :=
  reaches_foldlM (fun _ _ _ => reaches_proceed) proceeded

theorem reaches_purgeAfter (s : Session Memory) (now : Now) (tick : Nat) :
    s.Reaches (s.purgeAfter now tick) := by
  unfold purgeAfter
  split_ifs
  · exact reaches_of_step now.moment .purge rfl
  · exact .refl s

theorem reaches_tick {moment : Moment} {count : Nat} (ticked : s.tick now moment count = .ok s') :
    s.Reaches s' := by
  obtain ⟨next, passed, proceeded⟩ := bind_eq_ok ticked
  have looked := (reaches_passTo passed).trans (reaches_look next now)
  exact (looked.trans (reaches_purgeAfter _ now count)).trans (reaches_proceedAll proceeded)

/-- The ticks of a run are steps of the desk, with whatever comes between them. -/
theorem reaches_run {interval length : Duration} (done : s.run now interval length = .ok s') :
    s.Reaches s' := by
  obtain ⟨next, ticked, passed⟩ := bind_eq_ok done
  have first : s.Reaches next := reaches_foldlM (fun _ _ _ => reaches_tick) ticked
  exact first.trans (reaches_passTo passed)

end SwapLoops.Session
