import SwapLoops.Executor
import SwapLoops.Trader.Desk

/-! A desk with an executor and a timer. The timer moves only when somebody waits;
an executor that stays silent for too long has failed. The wall clock, which the
market and the cooldown go by, is given. -/

namespace SwapLoops

structure Now where
  seconds : Seconds
  moment : Moment

structure Session (Memory : Type) where
  desk : Desk
  executor : Executor Memory
  memory : Memory
  timer : Moment
  /-- Numbers of the attempts whose executor is silent, and when their time is
  over, in the order of these moments. -/
  waiting : List (Nat × Moment)

namespace Session

variable {Memory : Type}

def patience : Duration := Duration.ofSeconds 30

/-- The cooldown is purged after this many ticks. -/
def purgeEvery : Nat := 1000

/-- The most steps that an attempt takes before its executor has to answer. -/
def stepsToHand : Nat := 4

def withMarket (s : Session Memory) (market : Market) : Session Memory :=
  { s with desk := s.desk.trade market }

def advance (s : Session Memory) (now : Now) (number : Nat) :
    Except ClockError (Session Memory) := do
  let desk ← s.desk.advance now.moment number
  pure { s with desk }

def answer (s : Session Memory) (now : Now) (number : Nat)
    (answer : Except TradeError TradeReport) : Except ClockError (Session Memory) :=
  advance { s with desk := s.desk.answer number answer } now number

def execute (s : Session Memory) (now : Now) (number : Nat) :
    Except ClockError (Session Memory) :=
  match s.desk.attempts[number]? with
  | some (.handed order gas) =>
    let (reply, market, memory) := s.executor order gas now.seconds s.desk.trader.market s.memory
    let s := { s.withMarket market with memory }
    match reply with
    | .report r => s.answer now number (.ok r)
    | .refusal e => s.answer now number (.error e)
    | .silence =>
      .ok { s with waiting := s.waiting ++ [(number, s.timer + patience)] }
  | _ => .ok s

def proceed (s : Session Memory) (now : Now) (number : Nat) :
    Except ClockError (Session Memory) := do
  let s ← (List.range stepsToHand).foldlM (fun s _ => s.advance now number) s
  s.execute now number

def start (s : Session Memory) (path : List Pair) : Nat × Session Memory :=
  (s.desk.started, { s with desk := s.desk.start path })

def look (s : Session Memory) (now : Now) : Option Nat × Session Memory :=
  let (found, trader) := s.desk.trader.strongestLoop now.seconds
  let s := { s with desk := { s.desk with trader } }
  match found with
  | some l =>
    let (number, s) := s.start l.pairs
    (some number, s)
  | none => (none, s)

def expire (s : Session Memory) (now : Now) (moment : Moment) :
    List (Nat × Moment) → Except ClockError (Session Memory)
  | [] => .ok { s with waiting := [] }
  | (number, deadline) :: rest =>
    if moment < deadline then .ok { s with waiting := (number, deadline) :: rest }
    else do
      let s ← s.answer now number (.error .timeout)
      s.expire now moment rest

def passTo (s : Session Memory) (now : Now) (moment : Moment) :
    Except ClockError (Session Memory) :=
  expire { s with timer := max s.timer moment } now moment s.waiting

def await (s : Session Memory) (now : Now) (number : Nat) :
    Except ClockError (Option Outcome × Session Memory) := do
  let s ← match s.waiting.find? (·.1 = number) with
    | some (_, deadline) => s.passTo now deadline
    | none => pure s
  match s.desk.attempts[number]? with
  | some (.ended outcome) => pure (some outcome, s)
  | _ => pure (none, s)

def awaitAll (s : Session Memory) (now : Now) :
    List (Option Nat) → Except ClockError (List (Option Outcome) × Session Memory)
  | [] => .ok ([], s)
  | none :: rest => do
    let (outcomes, s) ← s.awaitAll now rest
    pure (none :: outcomes, s)
  | some number :: rest => do
    let (outcome, s) ← s.await now number
    let (outcomes, s) ← s.awaitAll now rest
    pure (outcome :: outcomes, s)

def proceedAll (s : Session Memory) (now : Now) (numbers : List (Option Nat)) :
    Except ClockError (Session Memory) :=
  (numbers.filterMap id).foldlM (fun s number => s.proceed now number) s

/-- Looks for a loop so many times at one moment, and only then makes the attempts. -/
def looks (s : Session Memory) (now : Now) : Nat → List (Option Nat) × Session Memory
  | 0 => ([], s)
  | times + 1 =>
    let (number, s) := s.look now
    let (numbers, s) := s.looks now times
    (number :: numbers, s)

def attempt (s : Session Memory) (now : Now) (times : Nat) :
    Except ClockError (List (Option Outcome) × Session Memory) := do
  let (numbers, s) := s.looks now times
  let s ← s.proceedAll now numbers
  s.awaitAll now numbers

def attemptPath (s : Session Memory) (now : Now) (path : List Pair) :
    Except ClockError (Option Outcome × Session Memory) := do
  let (number, s) := s.start path
  let s ← s.proceed now number
  s.await now number

/-- Purges the cooldown when as many ticks have passed as it takes. -/
def purgeAfter (s : Session Memory) (now : Now) (tick : Nat) : Session Memory :=
  if tick % purgeEvery = 0 then { s with desk := s.desk.purge now.moment } else s

/-- One tick of a run, at its moment. Nobody waits for its attempt. -/
def tick (s : Session Memory) (now : Now) (moment : Moment) (count : Nat) :
    Except ClockError (Session Memory) := do
  let s ← s.passTo now moment
  let (number, s) := s.look now
  (s.purgeAfter now count).proceedAll now [number]

/-- Ticks at once and then whenever an interval is over, until some time has passed. -/
def run (s : Session Memory) (now : Now) (interval length : Duration) :
    Except ClockError (Session Memory) := do
  let finish := s.timer + length
  let ticks := List.range (length / interval + 1)
  let s' ← ticks.foldlM (fun s' i => s'.tick now (s.timer + i * interval) (i + 1)) s
  s'.passTo now finish

end Session

end SwapLoops
