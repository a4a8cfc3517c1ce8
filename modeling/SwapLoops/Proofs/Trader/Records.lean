import SwapLoops.Proofs.Sizing.Outcomes
import SwapLoops.Proofs.Trader.Runs

/-! What an attempt has done in a run, read off how far it has come. Whatever comes between its
steps, it starts, enters, hands over one order and reports one failure, in this order, and may
end after any of them. -/

namespace SwapLoops

structure TradeOrder.Pays (order : TradeOrder) (base : Address) (minReceive : Word)
    (gas : GasQuote) : Prop where
  base_eq : order.base = base
  expectedOut_eq : order.expectedOut = pathOutput base order.amountIn order.path
  gain : order.amountIn.toNat + (Sizing.margin minReceive order.path.length gas).toNat <
    order.expectedOut.toNat

def Deed.toHand (order : TradeOrder) (gas : GasQuote) : List Deed :=
  [.starts order.path, .enters order.key, .hands order gas]

namespace Desk

variable {base : Address} {minReceive : Word} {done : List Deed} {a a' : Attempt}
  {t t' : Trader} {now : Moment}

/-- What an attempt has done once it has come so far. -/
def Lived (base : Address) (minReceive : Word) (done : List Deed) : Option Attempt → Prop
  | none => done = []
  | some (.found path) => done = [.starts path]
  | some (.quoted path _) => done = [.starts path]
  | some (.sized path gas size) =>
    done = [.starts path] ∧
      Sizing.Clears base path (Sizing.margin minReceive path.length gas) size
  | some (.entered path gas size) =>
    done = [.starts path, .enters (pathKey (path.map Pair.address))] ∧
      Sizing.Clears base path (Sizing.margin minReceive path.length gas) size
  | some (.handed order gas) =>
    done = Deed.toHand order gas ∧ order.Pays base minReceive gas
  | some (.refused order _) =>
    ∃ gas, done = Deed.toHand order gas ∧ order.Pays base minReceive gas
  | some (.ended (.executed _)) =>
    ∃ order gas, done = Deed.toHand order gas ∧ order.Pays base minReceive gas
  | some (.ended (.failed _ failures)) =>
    ∃ order gas, done = Deed.toHand order gas ++ [.reports order.key failures] ∧
      order.Pays base minReceive gas
  | some (.ended _) => ∃ path, done = [.starts path]

theorem lived_of_advances (advances : t.Advances now a a' t')
    (lived : Lived t.base t.minReceive done (some a)) :
    Lived t.base t.minReceive (done ++ (a.deed? a').toList) (some a') := by
  cases advances with
  | quote path =>
    rw [show done = [.starts path] from lived]
    rfl
  | @size path gas size sized =>
    rw [show done = [.starts path] from lived]
    exact ⟨rfl, (Sizing.clears_of_sizeFor sized).2⟩
  | @findNone path _ _ sized =>
    rw [show done = [.starts path] from lived]
    exact ⟨path, rfl⟩
  | @refuse path _ sized =>
    rw [show done = [.starts path] from lived]
    exact ⟨path, rfl⟩
  | enter entered =>
    rw [lived.1]
    exact ⟨rfl, lived.2⟩
  | @holdBack path _ _ _ entered =>
    rw [lived.1]
    exact ⟨path, rfl⟩
  | hand path gas size =>
    rw [lived.1]
    exact ⟨rfl, rfl, lived.2.amountOut_eq, lived.2.gain⟩
  | @report order error failures cooldown noted =>
    obtain ⟨gas, rfl, pays⟩ := lived
    exact ⟨order, gas, rfl, pays⟩
  | wait order gas =>
    rw [lived.1]
    exact ⟨rfl, lived.2⟩
  | rest outcome =>
    rw [show done ++ (Attempt.deed? (.ended outcome) (.ended outcome)).toList = done from
      List.append_nil done]
    exact lived

theorem lived_of_answered (answer : Except TradeError TradeReport)
    (lived : Lived base minReceive done (some a)) :
    Lived base minReceive done (some (a.answered answer)) := by
  cases a with
  | handed order gas =>
    cases answer with
    | ok report => exact ⟨order, gas, lived⟩
    | error e => exact ⟨gas, lived⟩
  | found | quoted | sized | entered | refused | ended =>
    cases answer with
    | ok report => exact lived
    | error e => exact lived

variable {start d d' : Desk} {event : Event} {steps : List Step} {number : Nat}

theorem Moves.terms (moves : d.Moves now event d') :
    d'.trader.base = d.trader.base ∧ d'.trader.minReceive = d.trader.minReceive := by
  cases moves with
  | advance present advances =>
    cases advances with
    | quote | size | findNone | refuse | enter | holdBack | hand | report | wait | rest =>
      exact ⟨rfl, rfl⟩
  | start | answer | advanceNone | answerNone | quote | deliver | sweep | trade | purge =>
    exact ⟨rfl, rfl⟩

theorem Changes.lived {reached : Option Attempt} {deeds : List Deed}
    (changes : d.Changes now number reached deeds) (numbered : d.Numbered)
    (lived : Lived d.trader.base d.trader.minReceive done d.attempts[number]?) :
    Lived d.trader.base d.trader.minReceive (done ++ deeds) reached := by
  cases changes with
  | keep => rwa [List.append_nil]
  | start next =>
    rw [numbered number next.ge] at lived
    rw [show done = [] from lived]
    rfl
  | advance present advances =>
    rw [present] at lived
    exact lived_of_advances advances lived
  | answer answer present =>
    rw [present] at lived
    rw [List.append_nil]
    exact lived_of_answered answer lived

theorem Runs.terms (run : Runs start steps d) :
    d.trader.base = start.trader.base ∧ d.trader.minReceive = start.trader.minReceive := by
  induction run with
  | nil => exact ⟨rfl, rfl⟩
  | concat _ stepped ih =>
    have terms := (moves_of_step stepped).terms
    exact ⟨terms.1.trans ih.1, terms.2.trans ih.2⟩

theorem Runs.lived (run : (new t).Runs steps d) (number : Nat) :
    Lived t.base t.minReceive (deedsOf number steps) d.attempts[number]? := by
  induction run with
  | nil =>
    rw [numbered_new t number (Nat.zero_le number)]
    rfl
  | concat run stepped ih =>
    -- a step goes by the terms of its own desk, which are those of the first one
    have terms := run.terms
    rw [← show _ = t.base from terms.1, ← show _ = t.minReceive from terms.2] at ih ⊢
    rw [deedsOf_append]
    exact ((moves_of_step stepped).changes number).lived (run.numbered (numbered_new t)) ih

/-- Whatever an attempt has done, it is the beginning of one way: its start, its entry, the
hand-over of its order, and the report of a failure. -/
theorem Lived.isPrefix {reached : Option Attempt} (lived : Lived base minReceive done reached) :
    ∃ order gas failures, done <+: Deed.toHand order gas ++ [.reports order.key failures] ∧
      (.hands order gas ∈ done → order.Pays base minReceive gas) := by
  have starts (path : List Pair) (only : done = [.starts path]) :
      ∃ order gas failures, done <+: Deed.toHand order gas ++ [.reports order.key failures] ∧
        (.hands order gas ∈ done → order.Pays base minReceive gas) := by
    refine ⟨⟨base, 0, 0, path⟩, .initial, 0, ?_, ?_⟩
    · exact only ▸ ⟨_, rfl⟩
    · simp [only]
  have hands {order : TradeOrder} {gas : GasQuote} (all : done = Deed.toHand order gas)
      (pays : order.Pays base minReceive gas) :
      ∃ order gas failures, done <+: Deed.toHand order gas ++ [.reports order.key failures] ∧
        (.hands order gas ∈ done → order.Pays base minReceive gas) :=
    ⟨order, gas, 0, all ▸ List.prefix_append _ _, fun _ => pays⟩
  cases reached with
  | none =>
    refine ⟨⟨base, 0, 0, []⟩, .initial, 0, ?_, ?_⟩
    · rw [show done = [] from lived]
      exact List.nil_prefix
    · simp [show done = [] from lived]
  | some a =>
    cases a with
    | found path => exact starts path lived
    | quoted path => exact starts path lived
    | sized path => exact starts path lived.1
    | entered path gas size =>
      refine ⟨⟨base, 0, 0, path⟩, gas, 0, ?_, ?_⟩
      · rw [lived.1]
        exact ⟨_, rfl⟩
      · simp [lived.1]
    | handed order gas => exact hands lived.1 lived.2
    | refused order error =>
      obtain ⟨gas, all, pays⟩ := lived
      exact hands all pays
    | ended outcome =>
      cases outcome with
      | executed report =>
        obtain ⟨order, gas, all, pays⟩ := lived
        exact hands all pays
      | failed error failures =>
        obtain ⟨order, gas, all, pays⟩ := lived
        exact ⟨order, gas, failures, all ▸ List.prefix_rfl, fun _ => pays⟩
      | coolingDown | noProfitableSize | invalidPath =>
        obtain ⟨path, only⟩ := lived
        exact starts path only

theorem Lived.pays {reached : Option Attempt} (lived : Lived base minReceive done reached)
    {order : TradeOrder} {gas : GasQuote} (hands : .hands order gas ∈ done) :
    order.Pays base minReceive gas := by
  obtain ⟨order', gas', failures, before, pays⟩ := lived.isPrefix
  have same : order = order' ∧ gas = gas' := by
    simpa [Deed.toHand] using before.subset hands
  obtain ⟨rfl, rfl⟩ := same
  exact pays hands

end Desk

end SwapLoops
