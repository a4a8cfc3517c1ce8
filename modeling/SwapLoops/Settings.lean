import SwapLoops.Address
import SwapLoops.Clock
import SwapLoops.Environment
import SwapLoops.Ether
import SwapLoops.PricedLoop
import SwapLoops.Path
import SwapLoops.Text.Blank
import SwapLoops.Text.Number

/-! What the program is told by variables of its environment. Each variable has a
default; the numbers among them may be left blank. -/

namespace SwapLoops

structure Settings where
  nodeUrl : String
  referenceUrl : Option String
  base : Address
  snapshotPath : Path
  tickInterval : Duration
  gasInterval : Duration
  snapshotInterval : Duration
  minReceive : Word
  passes : Nat
  dryRun : Bool
deriving DecidableEq, Repr

inductive ValueError
  | number (e : NumberError)
  | decimal (e : DecimalError)
  | flag
deriving DecidableEq, Repr

def ValueError.message : ValueError → String
  | .number e => e.message
  | .decimal e => e.message
  | .flag => "provided string was not `true` or `false`"

inductive SettingsError
  | base (text : String)
  | malformed (name text : String) (e : ValueError)
  | minReceive (amount : Decimal)
deriving DecidableEq, Repr

def SettingsError.message : SettingsError → String
  | .base text => "BASE_TOKEN is not an address: " ++ text
  | .malformed name text e => "invalid " ++ name ++ "=" ++ text ++ ": " ++ e.message
  | .minReceive amount => "MIN_RECEIVE_ETH out of range: " ++ amount.text

namespace Settings

def initial : Settings where
  nodeUrl := "http://127.0.0.1:8545"
  referenceUrl := none
  base := 0x4200000000000000000000000000000000000006
  snapshotPath := "./data/pairs.jsonl"
  tickInterval := Duration.ofMillis 100
  gasInterval := Duration.ofMillis 2000
  snapshotInterval := Duration.ofSeconds 60
  minReceive := 100000000000000
  passes := RateGraph.defaultPasses
  dryRun := true

def variableNames : List String :=
  ["RPC_URL", "REFERENCE_RPC_URL", "BASE_TOKEN", "SNAPSHOT_PATH", "TICK_INTERVAL_MS",
    "GAS_REFRESH_MS", "SNAPSHOT_INTERVAL_SECS", "MIN_RECEIVE_ETH", "MAX_RELAX_PASSES", "DRY_RUN"]

def numberLimit : Nat := UInt64.size

def readNumber (s : String) : Except ValueError Nat :=
  match Text.numberBelow numberLimit s with
  | .ok n => .ok n
  | .error e => .error (.number e)

def readDecimal (s : String) : Except ValueError Decimal :=
  match Decimal.ofText s with
  | .ok d => .ok d
  | .error e => .error (.decimal e)

def readFlag (s : String) : Except ValueError Bool :=
  if s = "true" then .ok true else if s = "false" then .ok false else .error .flag

def valueAt {α : Type} (env : Environment) (name : String) (read : String → Except ValueError α) :
    Except SettingsError (Option α) :=
  match env.get? name with
  | none => .ok none
  | some text =>
    let trimmed := Text.trim text
    if trimmed = "" then .ok none
    else
      match read trimmed with
      | .ok value => .ok (some value)
      | .error e => .error (.malformed name text e)

def baseAt (env : Environment) : Except SettingsError Address :=
  match env.get? "BASE_TOKEN" with
  | none => .ok initial.base
  | some text =>
    match Address.ofText? (Text.trim text) with
    | some a => .ok a
    | none => .error (.base text)

def minReceiveAt (env : Environment) : Except SettingsError Word := do
  match ← valueAt env "MIN_RECEIVE_ETH" readDecimal with
  | none => pure initial.minReceive
  | some amount =>
    match etherToWei? amount with
    | some wei => pure wei
    | none => throw (.minReceive amount)

/-- The settings in an environment. Variables are read in order, and the first one
that is malformed is reported. -/
def ofEnvironment (env : Environment) : Except SettingsError Settings := do
  let base ← baseAt env
  let tick ← valueAt env "TICK_INTERVAL_MS" readNumber
  let gas ← valueAt env "GAS_REFRESH_MS" readNumber
  let snapshot ← valueAt env "SNAPSHOT_INTERVAL_SECS" readNumber
  let minReceive ← minReceiveAt env
  let passes ← valueAt env "MAX_RELAX_PASSES" readNumber
  let dryRun ← valueAt env "DRY_RUN" readFlag
  pure {
    nodeUrl := (env.get? "RPC_URL").getD initial.nodeUrl
    referenceUrl := (env.get? "REFERENCE_RPC_URL").filter (· ≠ "")
    base
    snapshotPath := (env.get? "SNAPSHOT_PATH").getD initial.snapshotPath
    tickInterval := (tick.map fun n => .ofMillis (max 1 n)).getD initial.tickInterval
    gasInterval := (gas.map fun n => .ofMillis (max 100 n)).getD initial.gasInterval
    snapshotInterval := (snapshot.map fun n => .ofSeconds (max 1 n)).getD initial.snapshotInterval
    minReceive
    passes := passes.getD initial.passes
    dryRun := dryRun.getD initial.dryRun }

end Settings

end SwapLoops
