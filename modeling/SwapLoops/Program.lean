import SwapLoops.Address.Checksum
import SwapLoops.Command
import SwapLoops.Double.Text
import SwapLoops.Environment.File
import SwapLoops.Settings
import SwapLoops.Snapshot
import SwapLoops.Trader

/-! What the program does with any system of files, up to a scan of a snapshot. -/

namespace SwapLoops

inductive ProgramError
  | variable (e : Environment.Unsettable)
  | settings (e : SettingsError)
  | snapshot (e : Snapshot.Failure)
  | minReceive (amount : Decimal)
  | noExecutor
  | nodeUrl
  | referenceUrl
deriving DecidableEq, Repr

def ProgramError.message : ProgramError → String
  | .variable e => "failed to set environment variable " ++ e.name
  | .settings e => e.message
  | .snapshot e => e.message
  | .minReceive amount => "min receive out of range: " ++ amount.text
  | .noExecutor => "no signing executor is configured; set DRY_RUN=true"
  | .nodeUrl => "invalid RPC_URL"
  | .referenceUrl => "invalid REFERENCE_RPC_URL"

/-- What the program ends with. A variable that cannot be set breaks it off. -/
def ProgramError.exitCode : ProgramError → Nat
  | .variable _ => 101
  | _ => 1

namespace Program

variable {m : Type → Type} [Monad m]

def environmentFile : Path := ".env"

def settings (fs : FileSystem m) (env : Environment) : m (Except ProgramError Settings) := do
  let loaded ← match ← fs.read environmentFile with
    | .ok content => pure (Environment.File.load env content)
    | .error _ => pure (.ok env)
  match loaded with
  | .error e => pure (.error (.variable e))
  | .ok env =>
    match Settings.ofEnvironment env with
    | .ok s => pure (.ok s)
    | .error e => pure (.error (.settings e))

def usage : String :=
  "Usage: swap-loops [--json] [COMMAND]\n\n" ++
  "Commands:\n" ++
  "  run [--replay FILE]\n" ++
  "      Look for loops and rehearse their trades (default)\n" ++
  "  scan [--snapshot FILE] [--min-receive-eth AMOUNT]\n" ++
  "      Find and size one loop in a snapshot file\n" ++
  "  fee AMOUNT0_IN AMOUNT1_IN AMOUNT0_OUT AMOUNT1_OUT RESERVE0 RESERVE1\n" ++
  "      Infer the fee of a pair from one swap and the reserves after it\n"

def feeText (amounts : SwapAmounts) (reserve0 reserve1 : Word) : String :=
  toString (Fee.infer amounts reserve0 reserve1).toNat ++ "\n"

def etherText (wei : Word) : String := (weiToEther wei).text ++ " ETH"

def trialsText (n : Nat) : String := toString n ++ " trials"

def hopText (p : Pair) (token : Address) : String :=
  "  " ++ token.checksum ++ " via " ++ p.protocol.name ++ " " ++ p.address.checksum ++
    " (fee " ++ toString p.chargedFee.toNat ++ ")"

def sizeText : SizeOutcome → String
  | .profitable s =>
    "Profitable: in " ++ etherText s.amountIn ++ ", out " ++ etherText s.amountOut ++
      ", profit " ++ etherText s.profit ++ " (" ++ trialsText s.iterations ++ ")"
  | .noProfitableSize n => "No profitable size after " ++ trialsText n
  | .invalidPath => "Loop does not chain through the base token"

def loopLines (base : Address) (minReceive : Word) (l : PricedLoop) : List String :=
  ("Loop (" ++ toString l.pairs.length ++ " hops, expected return " ++
    Double.fixed 6 l.growth ++ "):") ::
  List.zipWith hopText l.pairs l.tokens ++
  [sizeText (Sizing.sizeFor base minReceive l.pairs GasQuote.initial)]

def scanText (t : Trader) (now : Seconds) : String :=
  match t.strongestLoop now with
  | (some l, _) => Text.unlines (loopLines t.base t.minReceive l)
  | (none, t) =>
    "No loop through " ++ t.base.checksum ++ " in " ++ toString t.market.size ++ " pairs\n"

def traderOf (s : Settings) : Trader := Trader.start s.base s.passes s.minReceive

def withMinReceive (s : Settings) : Option Decimal → Except ProgramError Settings
  | none => .ok s
  | some amount =>
    match etherToWei? amount with
    | some minReceive => .ok { s with minReceive }
    | none => .error (.minReceive amount)

def restore (fs : FileSystem m) (path : Path) (t : Trader) : m (Except ProgramError Trader) := do
  match ← Snapshot.restore fs path t.market with
  | .ok (market, _) => pure (.ok { t with market })
  | .error e => pure (.error (.snapshot e))

def scan (fs : FileSystem m) (env : Environment) (now : Seconds) (snapshot : Option Path)
    (minReceive : Option Decimal) : m (Except ProgramError String) := do
  match (← settings fs env).bind (withMinReceive · minReceive) with
  | .error e => pure (.error e)
  | .ok s =>
    match ← restore fs (snapshot.getD s.snapshotPath) (traderOf s) with
    | .error e => pure (.error e)
    | .ok t => pure (.ok (scanText t now))

end Program

end SwapLoops
