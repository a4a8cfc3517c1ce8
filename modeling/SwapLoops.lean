import SwapLoops.Main
import SwapLoops.Gas.Feed
import SwapLoops.Proofs.Executor.LatestStates
import SwapLoops.Proofs.Market.LastReport
import SwapLoops.Proofs.Market.LastVerdict
import SwapLoops.Proofs.Market.Readers
import SwapLoops.Proofs.Pair.Reach
import SwapLoops.Proofs.RateGraph.HiddenLoops
import SwapLoops.Proofs.Snapshot.BadLines
import SwapLoops.Proofs.Snapshot.Restore
import SwapLoops.Proofs.Trader.Attempts
import SwapLoops.Proofs.Trader.FoundLoops
import SwapLoops.Proofs.Pair.Semilattice
import SwapLoops.Proofs.Market.Changes
import SwapLoops.Proofs.Pair.RoundTrips
import SwapLoops.Proofs.Sizing.GivingUp
import SwapLoops.Proofs.Sizing.Margins
import SwapLoops.Proofs.Trade.PathChecks
import SwapLoops.Proofs.RateGraph.UnusablePairs
import SwapLoops.Proofs.Cooldown.Purges
import SwapLoops.Proofs.Fee.Pairing
import SwapLoops.Proofs.Ether.Conversion
import SwapLoops.Proofs.Trader.PathKeys
