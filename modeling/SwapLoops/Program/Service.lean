import SwapLoops.Executor
import SwapLoops.Program
import SwapLoops.Snapshot.Writer
import SwapLoops.Trader.Session
import SwapLoops.Url

/-! The service: a trader that rehearses its trades on the latest states of its
market, and a writer that keeps the market in its snapshot file. No node is asked
for gas prices here; those assumed at the start stay. -/

namespace SwapLoops

structure Service where
  settings : Settings
  trader : Trader
  writer : Snapshot.Writer

namespace Service

variable {m : Type → Type} [Monad m]

def checkExecutor (s : Settings) : Except ProgramError Settings :=
  if s.dryRun then .ok s else .error .noExecutor

def checkUrls (s : Settings) : Except ProgramError Unit :=
  if !Url.isAbsolute s.nodeUrl then .error .nodeUrl
  else if s.referenceUrl.any (!Url.isAbsolute ·) then .error .referenceUrl
  else .ok ()

/-- Reads the settings, restores the snapshot and checks the addresses of the nodes. -/
def start (fs : FileSystem m) (env : Environment) : m (Except ProgramError Service) := do
  match (← Program.settings fs env).bind checkExecutor with
  | .error e => pure (.error e)
  | .ok s =>
    match ← Program.restore fs s.snapshotPath (Program.traderOf s) with
    | .error e => pure (.error e)
    | .ok trader =>
      let writer := Snapshot.Writer.start s.snapshotPath s.snapshotInterval
      pure ((checkUrls s).map fun _ => ⟨s, trader, writer⟩)

def withMarket (s : Service) (market : Market) : Service :=
  { s with trader := { s.trader with market } }

def replayBatch : Nat := 100

def batches (size : Nat) (updates : List Update) : List (List Update) :=
  if _ : updates = [] ∨ size = 0 then []
  else updates.take size :: batches size (updates.drop size)
termination_by updates.length
decreasing_by
  have := List.length_pos_iff.2 (fun h => ‹¬_› (Or.inl h))
  rw [List.length_drop]
  omega

/-- Delivers the records of a file as updates. A file that cannot be read delivers none. -/
def replay (fs : FileSystem m) (path : Path) (s : Service) : m Service := do
  match ← Snapshot.load fs path with
  | .error _ => pure s
  | .ok pairs =>
    let feed := batches replayBatch (pairs.map .restored)
    pure (s.withMarket (s.trader.market.drain [feed]))

/-- One tick of the trader. The count tells when the cooldown is purged. -/
def tick (s : Service) (now : Now) (count : Nat) : Except ClockError Service := do
  let session : Session Unit := ⟨Desk.new s.trader, Executor.dryRunOnMarket, (), 0, []⟩
  let session ← session.tick now 0 count
  pure { s with trader := session.desk.trader }

def wait (fs : FileSystem m) (s : Service) (now : Seconds) (passed : Duration) : m Service := do
  let (writer, market) ← s.writer.wait fs s.trader.market now passed
  pure ({ s with writer }.withMarket market)

def stop (fs : FileSystem m) (s : Service) (now : Seconds) : m Service := do
  pure (s.withMarket (← s.writer.save fs s.trader.market now))

end Service

end SwapLoops
