import SwapLoops.Proofs.Cooldown.PathKeys
import SwapLoops.Proofs.Trader.Attempts

/-! Attempts and the windows of the cooldown. An attempt calls the cooldown under the key of the
loop that it started with, so a window belongs to one path of addresses, and only attempts at this
path and purges change it. -/

namespace SwapLoops

open Cooldown (Call)

variable {key : String}

theorem TradeOrder.key_eq {l : PricedLoop} {order : TradeOrder} (same : order.path = l.pairs) :
    order.key = l.key := by
  rw [TradeOrder.key, PricedLoop.key, same]

namespace Deed

variable {deed : Deed} {call : Call} {order : TradeOrder} {gas : GasQuote} {failures : UInt32}

theorem call?_ne_purge : deed.call? ≠ some .purge := by
  cases deed with
  | starts | enters | hands | reports => simp [call?]

theorem key_eq_of_isOn (did : deed ∈ toHand order gas ++ [.reports order.key failures])
    (calls : deed.call? = some call) (on : call.isOn key = true) : order.key = key := by
  simp only [toHand, List.cons_append, List.nil_append, List.mem_cons, List.not_mem_nil,
    or_false] at did
  rcases did with rfl | rfl | rfl | rfl
  · cases calls
  · cases calls
    exact of_decide_eq_true on
  · cases calls
  · cases calls
    exact of_decide_eq_true on

end Deed

namespace Desk

variable {base : Address} {minReceive : Word} {t : Trader} {d : Desk} {steps : List Step}
  {s : Step} {number : Nat} {done : List Deed} {deed : Deed}

theorem event_eq_of_deed? {call : Call} (did : s.deed? = some (number, deed))
    (calls : deed.call? = some call) : s.event = .advance number := by
  unfold Step.deed? at did
  split at did
  · cases did
    cases calls
  · next own =>
    split at did
    · obtain ⟨_, _, same⟩ := Option.map_eq_some_iff.mp did
      cases same
      exact own
    · cases did
  · cases did

theorem Lived.exists_order {reached : Option Attempt} (lived : Lived base minReceive done reached)
    (did : deed ∈ done) : ∃ order gas failures, .starts order.path ∈ done ∧
      done <+: Deed.toHand order gas ++ [.reports order.key failures] := by
  obtain ⟨order, gas, failures, before, _⟩ := lived.isPrefix
  refine ⟨order, gas, failures, ?_, before⟩
  cases done with
  | nil => cases did
  | cons first rest =>
    obtain ⟨rfl, _⟩ := List.cons_prefix_cons.mp before
    exact List.mem_cons_self

theorem Lived.exists_order_of_loop {reached : Option Attempt} {l : PricedLoop}
    (lived : Lived base minReceive done reached) (starts : .starts l.pairs ∈ done) :
    ∃ order gas failures, order.path = l.pairs ∧ order.key = l.key ∧
      done <+: [.starts l.pairs, .enters l.key, .hands order gas, .reports l.key failures] := by
  obtain ⟨order, gas, failures, before, _⟩ := lived.isPrefix
  have path : order.path = l.pairs := by
    simpa [Deed.toHand, eq_comm] using before.subset starts
  have key := TradeOrder.key_eq path
  rw [Deed.toHand, path, key] at before
  exact ⟨order, gas, failures, path, key, before⟩

/-- A step that changes the window of a key is a purge, or one of an attempt whose path has the
key. -/
theorem Runs.exists_start_of_changed (run : (new t).Runs steps d) (member : s ∈ steps)
    (changed : s.after.trader.cooldown.windows[key]? ≠ s.before.trader.cooldown.windows[key]?) :
    s.event = .purge ∨ ∃ number path, s.event = .advance number ∧
      .starts path ∈ deedsOf number steps ∧ pathKey (path.map Pair.address) = key := by
  by_cases purge : s.event = .purge
  · exact Or.inl purge
  have follows : s.before.trader.cooldown.Follows s.now s.call? s.after.trader.cooldown :=
    (run.moves member).follows
  cases called : s.call? with
  | none =>
    rw [called] at follows
    exact absurd (congrArg (fun c => c.windows[key]?) follows) changed
  | some call =>
    rw [called] at follows
    rw [call?_eq purge] at called
    obtain ⟨⟨number, deed⟩, did, calls⟩ := Option.bind_eq_some_iff.mp called
    have on : call.isOn key = true := by
      by_contra off
      refine changed (Cooldown.Answers.windows_eq follows (eq_false_of_ne_true off) ?_)
      rintro rfl
      exact Deed.call?_ne_purge calls
    have its : deed ∈ deedsOf number steps := mem_deedsOf member did
    obtain ⟨order, gas, failures, starts, before⟩ := (run.lived number).exists_order its
    exact Or.inr ⟨number, order.path, event_eq_of_deed? did calls, starts,
      Deed.key_eq_of_isOn (before.subset its) calls on⟩

theorem Runs.exists_start_of_window {w : Window} (run : (new t).Runs steps d)
    (fresh : t.cooldown.windows[key]? = none) (running : d.trader.cooldown.windows[key]? = some w) :
    ∃ number path, .starts path ∈ deedsOf number steps ∧ pathKey (path.map Pair.address) = key := by
  induction run generalizing w with
  | nil =>
    rw [show (new t).trader.cooldown.windows[key]? = none from fresh] at running
    cases running
  | @concat steps d d' now event run stepped ih =>
    cases before : d.trader.cooldown.windows[key]? with
    | some w' =>
      obtain ⟨number, path, starts, same⟩ := ih before
      refine ⟨number, path, ?_, same⟩
      rw [deedsOf_append]
      exact List.mem_append_left _ starts
    | none =>
      have last : ⟨d, now, event, d'⟩ ∈ steps ++ [⟨d, now, event, d'⟩] := by simp
      have changed : d'.trader.cooldown.windows[key]? ≠ d.trader.cooldown.windows[key]? := by
        rw [running, before]
        exact Option.some_ne_none w
      rcases (run.concat stepped).exists_start_of_changed last changed with purge | started
      · -- a purge lets no window begin
        cases purge
        cases moves_of_step stepped
        rw [show (d.purge now).trader.cooldown = d.trader.cooldown.purge now from rfl,
          Cooldown.windows_purge, before, Option.filter_none] at running
        cases running
      · obtain ⟨number, path, _, starts, same⟩ := started
        exact ⟨number, path, starts, same⟩

/-- Paths that differ have keys that differ, and never share a window: in any history of a
cooldown the calls about some paths can be left out, and nothing changes for the others. A loop
and an order at its pairs have the same key, under which each attempt at the loop enters and
reports. In every run each window belongs to one path, which an attempt started with, and besides
purges only steps of attempts at this path change it. -/
theorem keys_tell_paths_apart :
    (∀ path other, pathKey path = pathKey other → path = other) ∧
    (∀ (c c' : Cooldown) (calls : List (Moment × Call)) (others : List (List Address)),
      c.History calls c' → ∃ c'', c.History (Cooldown.besides others calls) c'' ∧
        ∀ path ∉ others, c''.windows[pathKey path]? = c'.windows[pathKey path]?) ∧
    (∀ (l : PricedLoop) (base : Address) (amountIn expectedOut : Word),
      l.key = (TradeOrder.mk base amountIn expectedOut l.pairs).key) ∧
    ∀ base passes minReceive steps d, (new (.start base passes minReceive)).Runs steps d →
      (∀ number (l : PricedLoop), .starts l.pairs ∈ deedsOf number steps →
        ∃ order gas failures, order.path = l.pairs ∧ order.key = l.key ∧
          deedsOf number steps <+:
            [.starts l.pairs, .enters l.key, .hands order gas, .reports l.key failures]) ∧
      (∀ key w, d.trader.cooldown.windows[key]? = some w →
        ∃! path, pathKey path = key ∧ ∃ number pairs,
          .starts pairs ∈ deedsOf number steps ∧ pairs.map Pair.address = path) ∧
      ∀ s ∈ steps, ∀ path, s.after.trader.cooldown.windows[pathKey path]? ≠
          s.before.trader.cooldown.windows[pathKey path]? →
        s.event = .purge ∨ ∃ number pairs, s.event = .advance number ∧
          .starts pairs ∈ deedsOf number steps ∧ pairs.map Pair.address = path := by
  refine ⟨fun path other same => pathKey_injective same, ?_, ?_, ?_⟩
  · exact fun c c' calls others history => history.exists_besides others
  · exact fun l base amountIn expectedOut => (TradeOrder.key_eq rfl).symm
  · intro base passes minReceive steps d run
    refine ⟨fun number l => (run.lived number).exists_order_of_loop, ?_, ?_⟩
    · intro key w running
      obtain ⟨number, pairs, starts, same⟩ :=
        run.exists_start_of_window Std.ExtTreeMap.getElem?_empty running
      refine ⟨pairs.map Pair.address, ⟨same, number, pairs, starts, rfl⟩, ?_⟩
      rintro path ⟨its, _⟩
      exact pathKey_injective (its.trans same.symm)
    · intro s member path changed
      rcases run.exists_start_of_changed member changed with purge | started
      · exact Or.inl purge
      · obtain ⟨number, pairs, own, starts, same⟩ := started
        exact Or.inr ⟨number, pairs, own, starts, pathKey_injective same⟩

def crossedPath : List Pair :=
  [⟨.uniswapV2, 0xa2, 1, 2, 1000000000000000000000, 2000000000000000000000, none, false,
      ⟨⟨1, 0, 0⟩, 0⟩, .none⟩,
    ⟨.uniswapV2, 0xa1, 2, 1, 1800000000000000000000, 1000000000000000000000, none, false,
      ⟨⟨1, 0, 0⟩, 0⟩, .none⟩]

def crossedLoop : PricedLoop := ⟨crossedPath, [1, 2, 1], 1.1⟩

def crossedEvents : List (Moment × Event) :=
  [(0, .start doublingPath), (0, .start crossedPath),
    (1, .advance 0), (1, .advance 1), (2, .advance 0), (2, .advance 1),
    (3, .advance 0), (3, .advance 1), (4, .advance 0), (4, .advance 1),
    (5, .answer 0 (.error .timeout)), (6, .advance 0)]

/-- Calls about two paths over the same pools, with a purge that keeps the one that failed. -/
def crossedCalls : List (Moment × Call) :=
  [(0, .enter (pathKey [0xa1, 0xa2]) true), (1, .enter (pathKey [0xa2, 0xa1]) true),
    (2, .noteFailure (pathKey [0xa1, 0xa2]) 1), (3, .enter (pathKey [0xa2, 0xa1]) false),
    (Duration.ofSeconds 4000, .purge),
    (Duration.ofSeconds 4000, .enter (pathKey [0xa2, 0xa1]) true),
    (Duration.ofSeconds 4000, .enter (pathKey [0xa1, 0xa2]) false)]

theorem crossed_paths_keep_apart :
    pathKey [0xa1, 0xa2] ≠ pathKey [0xa2, 0xa1] ∧
    (∃ c' c'', Cooldown.initial.History crossedCalls c' ∧
      Cooldown.initial.History (Cooldown.besides [[0xa2, 0xa1]] crossedCalls) c'' ∧
      c''.windows[pathKey [0xa1, 0xa2]]? = c'.windows[pathKey [0xa1, 0xa2]]?) ∧
    ∃ steps d, (new (.start 1 5 100000000000000)).Runs steps d ∧
      .starts crossedLoop.pairs ∈ deedsOf 1 steps ∧
      (∃ order gas failures, order.path = crossedLoop.pairs ∧ order.key = crossedLoop.key ∧
        deedsOf 1 steps <+: [.starts crossedLoop.pairs, .enters crossedLoop.key,
          .hands order gas, .reports crossedLoop.key failures]) ∧
      d.trader.cooldown.windows[crossedLoop.key]? = some ⟨0, 3 + Duration.ofSeconds 3600⟩ ∧
      (∃! path, pathKey path = crossedLoop.key ∧ ∃ number pairs,
        .starts pairs ∈ deedsOf number steps ∧ pairs.map Pair.address = path) ∧
      ∃ s ∈ steps, s.after.trader.cooldown.windows[pathKey [0xa1, 0xa2]]? ≠
          s.before.trader.cooldown.windows[pathKey [0xa1, 0xa2]]? ∧
        (s.event = .purge ∨ ∃ number pairs, s.event = .advance number ∧
          .starts pairs ∈ deedsOf number steps ∧ pairs.map Pair.address = [0xa1, 0xa2]) := by
  have replayed : (crossedCalls.foldlM Call.replay? Cooldown.initial).isSome := by
    decide +kernel
  obtain ⟨c', replayed⟩ := Option.isSome_iff_exists.mp replayed
  have seen : (crossedEvents.foldlM act? ([], new (.start 1 5 100000000000000))).any
      (fun (steps, d) => .starts crossedLoop.pairs ∈ deedsOf 1 steps ∧
        d.trader.cooldown.windows[crossedLoop.key]? = some ⟨0, 3 + Duration.ofSeconds 3600⟩ ∧
        ∃ s ∈ steps, s.after.trader.cooldown.windows[pathKey [0xa1, 0xa2]]? ≠
          s.before.trader.cooldown.windows[pathKey [0xa1, 0xa2]]?) = true := by
    decide +kernel
  obtain ⟨⟨steps, d⟩, acts, seen⟩ := (Option.any_eq_true ..).mp seen
  obtain ⟨starts, running, s, member, changed⟩ := of_decide_eq_true seen
  have run : (new (.start 1 5 100000000000000)).Runs steps d := runs_of_act? .nil acts
  obtain ⟨injective, isolated, _, runs⟩ := keys_tell_paths_apart
  have history : Cooldown.initial.History crossedCalls c' := .of_replay? replayed
  obtain ⟨c'', rest, same⟩ := isolated _ _ _ [[0xa2, 0xa1]] history
  obtain ⟨ordered, owned, changes⟩ := runs _ _ _ _ _ run
  refine ⟨fun equal => ?_, ⟨c', c'', history, rest, same [0xa1, 0xa2] (by decide)⟩, steps, d, run,
    starts, ordered 1 crossedLoop starts, running, owned _ _ running, s, member, changed,
    changes s member _ changed⟩
  exact absurd (injective _ _ equal) (by decide)

end Desk

end SwapLoops
