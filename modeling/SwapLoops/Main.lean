import Std.Time.DateTime.Timestamp
import SwapLoops.Program.Service

/-! The command line on the files, clocks and streams of a real system. The
service runs until its input ends. -/

namespace SwapLoops.Main

def succeeds (action : IO Unit) : IO Bool := do
  try
    action
    return true
  catch _ => return false

def readOpened (file : IO.FS.Handle) : IO (Except ReadError ByteArray) := do
  try
    return .ok (← file.readBinToEnd)
  catch _ => return .error .unreadable

def readFile (p : Path) : IO (Except ReadError ByteArray) := do
  try
    readOpened (← IO.FS.Handle.mk p .read)
  catch
    | .noFileOrDirectory .. => return .error .missing
    | _ => return .error .unopened

def disk : FileSystem IO where
  read := readFile
  createDirectories := fun p => succeeds (IO.FS.createDirAll p)
  write := fun p content => succeeds (IO.FS.writeBinFile p content)
  rename := fun source target => succeeds (IO.FS.rename source target)

def environment : IO Environment := do
  let values ← Settings.variableNames.mapM fun name => return (name, ← IO.getEnv name)
  return values.filterMap fun (name, value) => value.map fun v => (name, v)

def seconds : IO Seconds := do
  let now ← Std.Time.Timestamp.now
  return Int64.ofInt now.toSecondsSinceUnixEpoch.val

def clock : IO Now := return ⟨← seconds, ← IO.monoNanosNow⟩

partial def readToEnd (input : IO.FS.Stream) : IO Unit := do
  unless (← input.getLine).isEmpty do readToEnd input

/-- Ticks until the input has ended. -/
partial def serve (s : Service) (count : Nat) (input : Task (Except IO.Error Unit)) :
    IO Service := do
  if ← IO.hasFinished input then return s
  let before ← clock
  let s ← match s.tick before count with
    | .ok s => pure s
    | .error e => throw (IO.userError e.message)
  IO.sleep (UInt32.ofNat (s.settings.tickInterval / Duration.ofMillis 1))
  let after ← clock
  let s ← s.wait disk after.seconds (after.moment - before.moment)
  serve s (count + 1) input

def run (replay : Option Path) : IO (Except ProgramError Unit) := do
  match ← Service.start disk (← environment) with
  | .error e => return .error e
  | .ok s =>
    let s ← match replay with
      | some path => s.replay disk path
      | none => pure s
    let input ← IO.asTask (readToEnd (← IO.getStdin))
    let s ← serve s 1 input
    let _ ← s.stop disk (← seconds)
    return .ok ()

def conclude {α : Type} (result : Except ProgramError α) (use : α → IO Unit) : IO UInt32 := do
  match result with
  | .ok a =>
    use a
    return 0
  | .error e =>
    IO.eprintln ("Error: " ++ e.message)
    return UInt32.ofNat e.exitCode

end SwapLoops.Main

open SwapLoops SwapLoops.Main in
def main (words : List String) : IO UInt32 := do
  match Command.ofArguments? words with
  | none =>
    IO.eprint Program.usage
    return 2
  | some .help =>
    IO.print Program.usage
    return 0
  | some (.fee amounts reserve0 reserve1) =>
    IO.print (Program.feeText amounts reserve0 reserve1)
    return 0
  | some (.scan snapshot minReceive) =>
    let result ← Program.scan disk (← environment) (← seconds) snapshot minReceive
    conclude result (fun text => IO.print text)
  | some (.run replay) => conclude (← run replay) pure
