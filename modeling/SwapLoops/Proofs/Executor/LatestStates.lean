import SwapLoops.Executor
import SwapLoops.Proofs.Market.Eviction
import SwapLoops.Proofs.Sizing.SpotRates

/-! The check before a trade, on the latest states of a market. It swaps through them, so
it finds out drained pairs and fees that take everything. It does not look at whether the
last read of a pair failed: a pair that has no price for the search can still be traded. -/

namespace SwapLoops

namespace Pair

def IsLiquid (p : Pair) : Prop := p.reserve0 ≠ 0 ∧ p.reserve1 ≠ 0 ∧ p.chargedFee < feeBase

theorem hasPrice_iff {p : Pair} :
    p.hasPrice = true ↔ (p.failed = false ∧ p.knowsTokens = true) ∧ p.IsLiquid := by
  simp [hasPrice, IsLiquid, and_assoc]

theorem swap?_congr {p q : Pair} (tokens : p.tokens = q.tokens)
    (reserves : Part.reserves.value p = Part.reserves.value q)
    (fee : Part.fee.value p = Part.fee.value q) : p.swap? = q.swap? := by
  obtain ⟨token0, token1⟩ := Prod.mk.inj tokens
  obtain ⟨reserve0, reserve1⟩ := Prod.mk.inj reserves
  have charged : p.chargedFee = q.chargedFee := congrArg (Option.getD · defaultFee) fee
  funext token amount
  simp only [swap?, side?, token0, token1, reserve0, reserve1, charged]

theorem isLiquid_of_swap? {p : Pair} {token received : Address} {amount paid : Word}
    (swapped : p.swap? token amount = some (received, paid)) (pays : paid ≠ 0) :
    amount ≠ 0 ∧ p.IsLiquid := by
  obtain ⟨side, entered, result⟩ := Option.map_eq_some_iff.mp swapped
  obtain ⟨_, rfl⟩ := Prod.mk.inj result
  unfold swapOutput at pays
  split_ifs at pays with empty
  · exact absurd rfl pays
  · simp only [not_or, UInt32.not_le] at empty
    obtain ⟨something, liquidIn, liquidOut, below⟩ := empty
    unfold side? at entered
    split_ifs at entered
    · cases entered
      exact ⟨something, liquidIn, liquidOut, below⟩
    · cases entered
      exact ⟨something, liquidOut, liquidIn, below⟩

end Pair

section Paths

variable {path : List Pair} {token : Address} {amount : Word}

theorem swapThrough?_map {f g : Pair → Pair} (same : ∀ p ∈ path, (f p).swap? = (g p).swap?) :
    swapThrough? (path.map f) token amount = swapThrough? (path.map g) token amount := by
  induction path generalizing token amount with
  | nil => rfl
  | cons p path ih =>
    rw [swapThrough?, swapThrough?, List.map_cons, List.map_cons, List.foldlM_cons,
      List.foldlM_cons, same p List.mem_cons_self]
    exact bind_congr fun held => ih fun q member => same q (List.mem_cons_of_mem _ member)

theorem isLiquid_of_swapThrough? {received : Address} {paid : Word}
    (swapped : swapThrough? path token amount = some (received, paid)) (pays : paid ≠ 0) :
    amount ≠ 0 ∧ ∀ p ∈ path, p.IsLiquid := by
  induction path generalizing token amount with
  | nil =>
    cases swapped
    exact ⟨pays, by simp⟩
  | cons p path ih =>
    rw [swapThrough?, List.foldlM_cons] at swapped
    obtain ⟨⟨held, carried⟩, first, rest⟩ := Option.bind_eq_some_iff.mp swapped
    obtain ⟨something, others⟩ := ih rest
    obtain ⟨something', liquid⟩ := Pair.isLiquid_of_swap? first something
    exact ⟨something', List.forall_mem_cons.mpr ⟨liquid, others⟩⟩

theorem isLiquid_of_pathOutput (pays : pathOutput token amount path ≠ 0) :
    ∀ p ∈ path, p.IsLiquid := by
  unfold pathOutput at pays
  split at pays
  · next held swapped =>
    split_ifs at pays
    · exact (isLiquid_of_swapThrough? swapped pays).2
    · exact absurd rfl pays
  · exact absurd rfl pays

theorem rehearse_map {f g : Pair → Pair} (same : ∀ p ∈ path, (f p).swap? = (g p).swap?)
    (order : TradeOrder) (gas : GasQuote) :
    rehearse order (path.map f) gas = rehearse order (path.map g) gas := by
  simp only [rehearse, recheck, pathOutput, swapThrough?_map same, List.length_map]

theorem pathOutput_ne_zero_of_rehearse {order : TradeOrder} {gas : GasQuote} {r : TradeReport}
    (passed : rehearse order path gas = .ok r) :
    pathOutput order.base order.amountIn path ≠ 0 := by
  intro nothing
  simp [rehearse, recheck, nothing] at passed

end Paths

namespace Market

theorem fst_latest (m : Market) (now : Seconds) (path : List Pair) :
    (m.latest now path).1 = path.map fun p => (m.lookUp p.address now).1.getD p := by
  induction path generalizing m with
  | nil => rfl
  | cons p path ih =>
    show (m.lookUp p.address now).1.getD p :: ((m.lookUp p.address now).2.latest now path).1 = _
    -- The look at the first pair may evict it, which no look at the same moment can tell.
    rw [ih, snd_lookUp, List.map_cons]
    simp only [fst_lookUp_evict]

theorem fst_lookUp_deliver {m : Market} {now : Seconds} {p c : Pair}
    (found : (m.lookUp p.address now).1 = some c) (named : p.isNamed = true)
    (fresh : m.isStaleAt now p = false) (key : Address) :
    ((m.deliver p.address p).1.lookUp key now).1 =
      if p.address = key then some (c.join p) else (m.lookUp key now).1 := by
  simp only [fst_lookUp, isStaleAt, ttl_deliver, entries_deliver, named, Bool.true_and, beq_iff_eq]
  by_cases here : p.address = key
  · subst here
    rw [fst_lookUp, Option.filter_eq_some_iff] at found
    obtain ⟨present, live⟩ := found
    rw [if_pos rfl, if_pos rfl, present, Pair.receive, Option.filter_eq_some_iff]
    refine ⟨rfl, ?_⟩
    rcases Pair.join_cases c p with ⟨joined, _⟩ | ⟨joined, _⟩
    · simpa [joined, Pair.provenance_joinOrdered, isStaleAt] using fresh
    · simpa [joined, Pair.provenance_joinOrdered, isStaleAt] using live
  · rw [if_neg here, if_neg here]

end Market

/-! A read that fails leaves a pair what it needs to be swapped through. -/

namespace Pair

variable {c : Pair} {key : Address} {provenance : Provenance}

theorem swap?_join_readFailed (known : c.knowsTokens = true) :
    (c.join (Update.readFailed key provenance).toPair).swap? = c.swap? := by
  apply swap?_congr
  · exact tokens_join_of_unknown known rfl
  · exact @Part.value_join_of_unwritten _ Part.reserves _ _ rfl
  · exact @Part.value_join_of_unwritten _ Part.fee _ _ rfl

theorem failed_join_readFailed (last : ∀ earlier ∈ c.statusSince, earlier < provenance.position) :
    (c.join (Update.readFailed key provenance).toPair).failed = true :=
  @Part.value_join_of_later _ Part.status _ _ provenance.position rfl last

end Pair

namespace Executor

variable {Memory : Type} {order : TradeOrder} {gas : GasQuote} {now : Seconds} {m : Market}
  {memory : Memory}

theorem fst_dryRunOnMarket :
    (dryRunOnMarket order gas now m memory).1 =
      .ofExcept (rehearse order (order.path.map fun p => (m.lookUp p.address now).1.getD p) gas) := by
  rw [← Market.fst_latest]
  rfl

theorem fst_dryRunOnMarket_eq_report {r : TradeReport} :
    (dryRunOnMarket order gas now m memory).1 = .report r ↔
      rehearse order (order.path.map fun p => (m.lookUp p.address now).1.getD p) gas = .ok r := by
  rw [fst_dryRunOnMarket]
  cases rehearse order (order.path.map fun p => (m.lookUp p.address now).1.getD p) gas <;>
    simp [Reply.ofExcept]

section FailedRead

variable {key : Address} {provenance : Provenance} {c : Pair} (named : key ≠ 0)
  (found : (m.lookUp key now).1 = some c) (fresh : provenance.isStale now m.ttl = false)

include named found fresh

theorem fst_lookUp_readFailed (key' : Address) :
    ((m.deliverUpdates [.readFailed key provenance]).1.lookUp key' now).1 =
      if key = key' then some (c.join (Update.readFailed key provenance).toPair)
      else (m.lookUp key' now).1 := by
  have arrived : (Update.readFailed key provenance).toPair.isNamed = true := by
    simpa [Update.toPair, Pair.isNamed] using named
  exact @Market.fst_lookUp_deliver m now (Update.readFailed key provenance).toPair c found arrived fresh key'

theorem fst_dryRunOnMarket_readFailed (known : c.knowsTokens = true) :
    (dryRunOnMarket order gas now (m.deliverUpdates [.readFailed key provenance]).1 memory).1 =
      (dryRunOnMarket order gas now m memory).1 := by
  rw [fst_dryRunOnMarket, fst_dryRunOnMarket, rehearse_map]
  intro p _
  rw [fst_lookUp_readFailed named found fresh]
  split_ifs with here
  · rw [← here, found, Option.getD_some, Option.getD_some, Pair.swap?_join_readFailed known]
  · rfl

end FailedRead

/-- A dry run that reports a trade found liquidity in the live states of the path, and fees
below the base. So these have a price exactly if they know their tokens and no read of them
failed last. That a read of one of them fails does not change what the dry run reports. -/
theorem reported_pairs_have_price_iff {r : TradeReport}
    (reported : (dryRunOnMarket order gas now m memory).1 = .report r) :
    ((∀ p ∈ order.path, ∀ c ∈ (m.lookUp p.address now).1, c.hasPrice = true) ↔
      ∀ p ∈ order.path, ∀ c ∈ (m.lookUp p.address now).1, c.failed = false ∧ c.knowsTokens = true) ∧
    ∀ key provenance c, key ≠ 0 → (m.lookUp key now).1 = some c → c.knowsTokens = true →
      provenance.isStale now m.ttl = false →
        (dryRunOnMarket order gas now (m.deliverUpdates [.readFailed key provenance]).1 memory).1 =
          .report r ∧
        ((∀ earlier ∈ c.statusSince, earlier < provenance.position) →
          ∃ c', ((m.deliverUpdates [.readFailed key provenance]).1.lookUp key now).1 = some c' ∧
            c'.failed = true) := by
  constructor
  · have pays := pathOutput_ne_zero_of_rehearse (fst_dryRunOnMarket_eq_report.mp reported)
    have liquid := List.forall_mem_map.mp (isLiquid_of_pathOutput pays)
    refine forall₂_congr fun p member => forall₂_congr fun c live => ?_
    have traded := liquid p member
    rw [Option.mem_def.mp live, Option.getD_some] at traded
    rw [Pair.hasPrice_iff, and_iff_left traded]
  · intro key provenance c named found known fresh
    refine ⟨(fst_dryRunOnMarket_readFailed named found fresh known).trans reported, fun last => ?_⟩
    rw [fst_lookUp_readFailed named found fresh, if_pos rfl]
    exact ⟨_, rfl, Pair.failed_join_readFailed last⟩

/-! The pools of `doublingPath` are in the market when a trade is sized on them. Then the
read of one of them fails. -/

def doublingOrder : TradeOrder := ⟨1, 40960000000000000000, 41653136416631347549, doublingPath⟩

def doublingReport : TradeReport := ⟨40960000000000000000, 41653136416631347549, 12000000, true⟩

def supply : List Update := doublingPath.map .restored

def failure : Update := .readFailed 0xa2 ⟨.endOf 2, 0⟩

theorem failed_read_keeps_report :
    (dryRunOnMarket doublingOrder .initial 0 (Market.initial.deliverUpdates supply).1 ()).1 =
        .report doublingReport ∧
      (∀ p ∈ doublingOrder.path,
        ∀ c ∈ ((Market.initial.deliverUpdates supply).1.lookUp p.address 0).1, c.hasPrice = true) ∧
      (dryRunOnMarket doublingOrder .initial 0
        ((Market.initial.deliverUpdates supply).1.deliverUpdates [failure]).1 ()).1 =
          .report doublingReport := by
  have reported : (dryRunOnMarket doublingOrder .initial 0 (Market.initial.deliverUpdates supply).1 ()).1 =
      .report doublingReport := by
    simp only [fst_dryRunOnMarket, Market.initial, Market.fst_lookUp_new_deliverUpdates]
    decide +kernel
  have healthy : ∀ p ∈ doublingOrder.path,
      ((Market.initial.deliverUpdates supply).1.lookUp p.address 0).1 = some p ∧
        p.failed = false ∧ p.knowsTokens = true := by
    simp only [Market.initial, Market.fst_lookUp_new_deliverUpdates]
    decide +kernel
  obtain ⟨priced, failing⟩ := reported_pairs_have_price_iff reported
  refine ⟨reported, priced.mpr ?_, ?_⟩
  · intro p member c live
    obtain ⟨found, sound⟩ := healthy p member
    rw [found] at live
    cases live
    exact sound
  · obtain ⟨found, _, known⟩ := healthy doublingPath[1] (by decide)
    exact (failing 0xa2 _ _ (by decide) found known (by decide)).1

/-- The pool whose read failed has no price any more, and the trade is reported all the same. -/
theorem failed_pair_is_traded :
    (dryRunOnMarket doublingOrder .initial 0
        (Market.initial.deliverUpdates (supply ++ [failure])).1 ()).1 = .report doublingReport ∧
      ((Market.initial.deliverUpdates (supply ++ [failure])).1.lookUp 0xa2 0).1.map Pair.hasPrice =
        some false := by
  simp only [fst_dryRunOnMarket, Market.initial, Market.fst_lookUp_new_deliverUpdates]
  decide +kernel

end Executor

end SwapLoops
