import SwapLoops.Clock
import SwapLoops.Gas
import SwapLoops.Word.Text

/-! Feeds of gas prices, and the watcher that polls them. A feed that fails, or
does not answer in time, leaves the last price in place. -/

namespace SwapLoops

inductive Reading
  | price (p : GasPrice)
  | broken
  | silent
deriving DecidableEq, Repr

/-- The readings of a feed, one for each poll; after the last one it is broken. -/
abbrev Feed := List Reading

namespace Feed

def timeout : Duration := Duration.ofSeconds 5

def ofQuantity (s : String) : Reading :=
  match Word.ofText? s with
  | some w => if w.toNat ≤ greatestPrice.toNat then .price (BitVec.ofNat 128 w.toNat) else .broken
  | none => .broken

def poll (feed : Feed) : Option GasPrice × Duration × Feed :=
  match feed with
  | .price p :: rest => (some p, 0, rest)
  | .broken :: rest => (none, 0, rest)
  | .silent :: rest => (none, timeout, rest)
  | [] => (none, 0, [])

end Feed

structure GasWatch where
  quote : GasQuote
  here : Feed
  reference : Option Feed

namespace GasWatch

def refresh (w : GasWatch) : GasWatch × Duration :=
  let (price, waited, here) := w.here.poll
  let quote := price.elim w.quote w.quote.withHere
  match w.reference with
  | none => (⟨quote, here, none⟩, waited)
  | some feed =>
    let (price, waited', reference) := feed.poll
    (⟨price.elim quote quote.withReference, here, some reference⟩, waited + waited')

/-- Polls at each of the due moments, in order. A poll that is late because the
one before it waited is made at once; none starts after the end. -/
def pollAt (w : GasWatch) (now finish : Moment) : List Moment → GasWatch
  | [] => w
  | due :: rest =>
    let begin := max now due
    if finish < begin then w
    else
      let (w, waited) := w.refresh
      w.pollAt (begin + waited) finish rest

def run (w : GasWatch) (every length : Duration) : GasWatch :=
  w.pollAt 0 length ((List.range (length / every + 1)).map (· * every))

end GasWatch

end SwapLoops
