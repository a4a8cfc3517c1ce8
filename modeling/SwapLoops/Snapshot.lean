import SwapLoops.FileTree
import SwapLoops.Market
import SwapLoops.Record
import SwapLoops.Text.Lines

/-! Pairs in a file, one record in a line. A restored file is joined with what a
market holds like any other update. A file is replaced by writing another one
beside it and moving that into its place. -/

namespace SwapLoops.Snapshot

def pairsOfLines (lines : List String) : List Pair :=
  lines.filterMap fun line =>
    if Text.isBlankText line then none else (Pair.ofLine line).toOption

def decode? (content : ByteArray) : Option (List Pair) :=
  (String.fromUTF8? content).map fun s => pairsOfLines (Text.lines s)

def encode (pairs : List Pair) : ByteArray := (Text.unlines (pairs.map Pair.line)).toUTF8

inductive Failure
  | opening (path : Path)
  | reading (path : Path)
  | creating (path : Path)
  | moving (path : Path)
deriving DecidableEq, Repr

def Failure.message : Failure → String
  | .opening path => "failed to open " ++ path
  | .reading path => "failed to read " ++ path
  | .creating path => "failed to create " ++ path
  | .moving path => "failed to move snapshot into " ++ path

/-- What the outcome of reading a file comes to. A missing file holds no pairs. -/
def ofRead (path : Path) : Except ReadError ByteArray → Except Failure (List Pair)
  | .error .missing => .ok []
  | .error .unopened => .error (.opening path)
  | .error .unreadable => .error (.reading path)
  | .ok content =>
    match decode? content with
    | some pairs => .ok pairs
    | none => .error (.reading path)

variable {m : Type → Type} [Monad m]

def load (fs : FileSystem m) (path : Path) : m (Except Failure (List Pair)) :=
  ofRead path <$> fs.read path

def restore (fs : FileSystem m) (path : Path) (market : Market) :
    m (Except Failure (Market × Nat)) := do
  match ← load fs path with
  | .ok pairs => pure (.ok (market.deliverPairs pairs))
  | .error e => pure (.error e)

def temporary (path : Path) : Path := path.withExtension "tmp"

def ensureDirectory (fs : FileSystem m) : Option Path → m (Except Failure Unit)
  | none => pure (.ok ())
  | some directory => do
    if ← fs.createDirectories directory then pure (.ok ()) else pure (.error (.creating directory))

def write (fs : FileSystem m) (path : Path) (pairs : List Pair) : m (Except Failure Nat) := do
  match ← ensureDirectory fs path.directory? with
  | .error e => pure (.error e)
  | .ok () =>
    if ← fs.write (temporary path) (encode pairs) then
      if ← fs.rename (temporary path) path then pure (.ok pairs.length)
      else pure (.error (.moving path))
    else pure (.error (.creating (temporary path)))

def writeMarket (fs : FileSystem m) (path : Path) (market : Market) (now : Seconds) :
    m (Except Failure Nat × Market) := do
  let (live, market) := market.sweep now
  pure (← write fs path live, market)

end SwapLoops.Snapshot
