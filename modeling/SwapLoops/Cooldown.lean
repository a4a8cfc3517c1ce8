import Std.Data.ExtTreeMap
import SwapLoops.Clock

/-! Lets each loop through once per window and backs off after failures. -/

namespace SwapLoops

structure Window where
  failures : UInt32
  expiresAt : Moment
deriving DecidableEq, Repr

structure Cooldown where
  windows : Std.ExtTreeMap String Window
  ttl : Duration
  backoff : Duration

namespace Cooldown

/-- Identical loops are attempted once in this time. -/
def defaultTtl : Duration := Duration.ofSeconds 3600

/-- What a failure adds to the window, for each failure so far. -/
def defaultBackoff : Duration := Duration.ofSeconds 600

def new (ttl backoff : Duration) : Cooldown := ⟨∅, ttl, backoff⟩

def initial : Cooldown := new defaultTtl defaultBackoff

def size (c : Cooldown) : Nat := c.windows.size

def set (c : Cooldown) (key : String) (w : Window) : Cooldown :=
  { c with windows := c.windows.insert key w }

def failures (c : Cooldown) (key : String) : UInt32 :=
  (c.windows[key]?.map Window.failures).getD 0

/-- Whether a loop may be attempted now. If so, a new window starts; failures of
earlier windows are remembered. -/
def enter (c : Cooldown) (key : String) (now : Moment) : Except ClockError (Bool × Cooldown) :=
  match c.windows[key]? with
  | none => do
    let expiresAt ← now.after c.ttl
    pure (true, c.set key ⟨0, expiresAt⟩)
  | some w =>
    if now < w.expiresAt then pure (false, c)
    else do
      let expiresAt ← now.after c.ttl
      pure (true, c.set key ⟨w.failures, expiresAt⟩)

def satSucc (n : UInt32) : UInt32 := if n = -1 then n else n + 1

def noteFailure (c : Cooldown) (key : String) (now : Moment) :
    Except ClockError (UInt32 × Cooldown) := do
  let w := c.windows[key]?.getD ⟨0, now⟩
  let failures := satSucc w.failures
  let extension ← c.backoff.times failures
  let expiresAt ← Moment.after (max w.expiresAt now) extension
  pure (failures, c.set key ⟨failures, expiresAt⟩)

/-- How long an entry is kept after its window: one more window if it failed, so
that a quick retry still sees its failures. -/
def grace (c : Cooldown) (w : Window) : Duration := if w.failures = 0 then 0 else c.ttl

def isKept (c : Cooldown) (now : Moment) (w : Window) : Bool :=
  match w.expiresAt.after? (c.grace w) with
  | some limit => now < limit
  | none => true

def purge (c : Cooldown) (now : Moment) : Cooldown :=
  { c with windows := c.windows.filter fun _ w => c.isKept now w }

end Cooldown

end SwapLoops
