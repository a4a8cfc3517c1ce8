import SwapLoops.Trader

/-! A trader with all the attempts that were started on it, and the events that
may follow each other in any order. -/

namespace SwapLoops

structure Desk where
  trader : Trader
  attempts : Std.ExtTreeMap Nat Attempt
  /-- How many attempts were started; the next one takes this number. -/
  started : Nat

inductive Desk.Event
  | start (path : List Pair)
  | advance (number : Nat)
  | answer (number : Nat) (answer : Except TradeError TradeReport)
  | quote (gas : GasQuote)
  | deliver (updates : List Update)
  | sweep (now : Seconds)
  /-- An executor leaves the market like this. -/
  | trade (market : Market)
  | purge

namespace Desk

def new (t : Trader) : Desk := ⟨t, ∅, 0⟩

def start (d : Desk) (path : List Pair) : Desk :=
  { d with attempts := d.attempts.insert d.started (.found path), started := d.started + 1 }

def advance (d : Desk) (now : Moment) (number : Nat) : Except ClockError Desk :=
  match d.attempts[number]? with
  | none => .ok d
  | some a =>
    match d.trader.advance now a with
    | .ok (a, trader) => .ok { d with trader, attempts := d.attempts.insert number a }
    | .error e => .error e

def answer (d : Desk) (number : Nat) (answer : Except TradeError TradeReport) : Desk :=
  match d.attempts[number]? with
  | none => d
  | some a => { d with attempts := d.attempts.insert number (a.answered answer) }

def quote (d : Desk) (gas : GasQuote) : Desk := { d with trader := { d.trader with gas } }

def deliver (d : Desk) (updates : List Update) : Desk × Nat :=
  let (market, changed) := d.trader.market.deliverUpdates updates
  ({ d with trader := { d.trader with market } }, changed)

def sweep (d : Desk) (now : Seconds) : Desk :=
  { d with trader := { d.trader with market := (d.trader.market.sweep now).2 } }

def trade (d : Desk) (market : Market) : Desk := { d with trader := { d.trader with market } }

def purge (d : Desk) (now : Moment) : Desk :=
  { d with trader := { d.trader with cooldown := d.trader.cooldown.purge now } }

def step (d : Desk) (now : Moment) : Event → Except ClockError Desk
  | .start path => .ok (d.start path)
  | .advance number => d.advance now number
  | .answer number answer => .ok (d.answer number answer)
  | .quote gas => .ok (d.quote gas)
  | .deliver updates => .ok (d.deliver updates).1
  | .sweep seconds => .ok (d.sweep seconds)
  | .trade market => .ok (d.trade market)
  | .purge => .ok (d.purge now)

end Desk

end SwapLoops
