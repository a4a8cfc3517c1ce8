/-! Moments and durations in nanoseconds. The clock tells moments from a fixed
start on and holds 63 bits of whole seconds. -/

namespace SwapLoops

/-- Nanoseconds. -/
abbrev Duration := Nat

/-- Nanoseconds since the clock was started. -/
abbrev Moment := Nat

namespace Duration

def ofSeconds (n : Nat) : Duration := n * 1000000000

def ofMillis (n : Nat) : Duration := n * 1000000

end Duration

inductive ClockError
  | momentOverflow
  | durationOverflow
deriving DecidableEq, Repr

def ClockError.message : ClockError → String
  | .momentOverflow => "overflow when adding duration to instant"
  | .durationOverflow => "overflow when multiplying duration by scalar"

namespace Moment

/-- The first moment that the clock cannot tell. -/
def limit : Moment := Duration.ofSeconds (UInt64.size / 2)

def after? (t : Moment) (d : Duration) : Option Moment :=
  if t + d < limit then some (t + d) else none

def after (t : Moment) (d : Duration) : Except ClockError Moment :=
  if t + d < limit then .ok (t + d) else .error .momentOverflow

end Moment

/-- A duration taken so many times. A duration holds 64 bits of whole seconds. -/
def Duration.times (d : Duration) (n : UInt32) : Except ClockError Duration :=
  if d * n.toNat < ofSeconds UInt64.size then .ok (d * n.toNat) else .error .durationOverflow

end SwapLoops
