import SwapLoops.Clock
import SwapLoops.Snapshot

/-! The periodic writer: a market goes to its file each time a period is over, and
once more at the end. A write that fails is left for the next one. -/

namespace SwapLoops.Snapshot

structure Writer where
  path : Path
  period : Duration
  elapsed : Duration

namespace Writer

variable {m : Type → Type} [Monad m]

def start (path : Path) (period : Duration) : Writer := ⟨path, period, 0⟩

def due (w : Writer) (passed : Duration) : Nat :=
  (w.elapsed + passed) / w.period - w.elapsed / w.period

def save (fs : FileSystem m) (w : Writer) (market : Market) (now : Seconds) : m Market := do
  let (_, market) ← writeMarket fs w.path market now
  pure market

/-- Lets time pass. All the writes that fall due leave the same file, so one stands
for them. -/
def wait (fs : FileSystem m) (w : Writer) (market : Market) (now : Seconds) (passed : Duration) :
    m (Writer × Market) := do
  let market ← if 0 < w.due passed then w.save fs market now else pure market
  pure ({ w with elapsed := w.elapsed + passed }, market)

end Writer

end SwapLoops.Snapshot
