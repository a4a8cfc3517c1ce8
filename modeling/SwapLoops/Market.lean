import Std.Data.ExtTreeMap
import SwapLoops.Pair.Join
import SwapLoops.Update

/-! The latest known state of each pair. A delivered state is joined with the one
it finds, so deliveries that are repeated or out of order end in the same content.
States that nobody refreshed within the time to live leave when they are read. -/

namespace SwapLoops

structure Market where
  entries : Std.ExtTreeMap Address Pair
  ttl : Seconds

namespace Market

/-- A pair that was not refreshed for a day is dropped. -/
def defaultTtl : Seconds := 86400

def new (ttl : Seconds) : Market := ⟨∅, ttl⟩

def initial : Market := new defaultTtl

def size (m : Market) : Nat := m.entries.size

def states (m : Market) : List Pair := m.entries.values

def put (m : Market) (key : Address) (p : Pair) : Market :=
  { m with entries := m.entries.insert key p }

def replacement? (current : Option Pair) (p : Pair) : Option Pair :=
  match current with
  | none => some p
  | some c => if p.provenance.Succeeds c.provenance then some (p.join c) else c.absorb? p

def deliver (m : Market) (key : Address) (p : Pair) : Market × Bool :=
  if p.isNamed then
    match replacement? m.entries[key]? p with
    | some p' => (m.put key p', true)
    | none => (m, false)
  else (m, false)

def deliverAll (m : Market) (items : List (Address × Pair)) : Market × Nat :=
  items.foldl
    (fun (m, changed) (key, p) =>
      let (m, now?) := m.deliver key p
      (m, changed + if now? then 1 else 0))
    (m, 0)

def deliverPairs (m : Market) (pairs : List Pair) : Market × Nat :=
  m.deliverAll (pairs.map fun p => (p.address, p))

def deliverUpdates (m : Market) (updates : List Update) : Market × Nat :=
  m.deliverPairs (updates.map Update.toPair)

def drain (m : Market) (feeds : List (List (List Update))) : Market :=
  feeds.flatten.foldl (fun m batch => (m.deliverUpdates batch).1) m

def isStaleAt (m : Market) (now : Seconds) (p : Pair) : Bool :=
  p.provenance.isStale now m.ttl

/-- Removes those of the keys whose present state is expired. A state that was
refreshed since the keys were read stays. -/
def evict (m : Market) (keys : List Address) (now : Seconds) : Market :=
  keys.foldl
    (fun m key =>
      match m.entries[key]? with
      | some p => if m.isStaleAt now p then { m with entries := m.entries.erase key } else m
      | none => m)
    m

/-- The state under a key, unless it is expired; then it is evicted. -/
def lookUp (m : Market) (key : Address) (now : Seconds) : Option Pair × Market :=
  match m.entries[key]? with
  | some p => if m.isStaleAt now p then (none, m.evict [key] now) else (some p, m)
  | none => (none, m)

def live (m : Market) (now : Seconds) : List Pair :=
  m.states.filter (!m.isStaleAt now ·)

def staleKeys (m : Market) (now : Seconds) : List Address :=
  (m.entries.toList.filter fun (_, p) => m.isStaleAt now p).map Prod.fst

/-- All live states; the expired ones are evicted. -/
def sweep (m : Market) (now : Seconds) : List Pair × Market :=
  (m.live now, m.evict (m.staleKeys now) now)

end Market

end SwapLoops
