import SwapLoops.Proofs.RateGraph.PricedLoops
import SwapLoops.Proofs.Sizing.SpotRates
import SwapLoops.Proofs.Trader.Records
import SwapLoops.Proofs.Trader.Sessions

/-! A loop that the search finds leads back to the base by the pairs it was priced on, so that
no attempt of it is refused for its path. -/

namespace SwapLoops

/-- An attempt at a path, as long as its sizing has not refused it. -/
def Attempt.On (path : List Pair) : Attempt → Prop
  | .found path' => path' = path
  | .quoted path' _ => path' = path
  | .ended outcome => outcome ≠ .invalidPath
  | _ => True

variable {path : List Pair} {a a' : Attempt} {now : Moment}

theorem Attempt.On.advances {t t' : Trader} (on : a.On path) (returns : ReturnsTo t.base path)
    (advances : t.Advances now a a' t') : a'.On path := by
  cases advances with
  | quote => exact on
  | @refuse path' gas sized =>
    obtain rfl : path' = path := on
    exact absurd returns (Sizing.sizeFor_eq_invalidPath_iff.mp sized)
  | findNone | holdBack | report => exact Outcome.noConfusion
  | rest => exact on
  | size | enter | hand | wait => exact trivial

theorem Attempt.On.answered (on : a.On path) (answer : Except TradeError TradeReport) :
    (a.answered answer).On path := by
  cases a with
  | handed order gas =>
    cases answer with
    | ok report => exact Outcome.noConfusion
    | error e => exact trivial
  | found | quoted | sized | entered | refused | ended =>
    cases answer with
    | ok report => exact on
    | error e => exact on

namespace Desk

variable {start d d' : Desk} {event : Event} {steps : List Step} {number : Nat}

def Heads (d : Desk) (number : Nat) (path : List Pair) : Prop :=
  number < d.started ∧ ∃ a, d.attempts[number]? = some a ∧ a.On path

theorem Changes.on {reached : Option Attempt} {deeds : List Deed}
    (changes : d.Changes now number reached deeds) (returns : ReturnsTo d.trader.base path)
    (heads : d.Heads number path) : ∃ a, reached = some a ∧ a.On path := by
  obtain ⟨taken, a, present, on⟩ := heads
  cases changes with
  | keep => exact ⟨a, present, on⟩
  | start next => exact absurd next (Nat.ne_of_lt taken)
  | advance present' advances =>
    obtain rfl := Option.some.inj (present.symm.trans present')
    exact ⟨_, rfl, on.advances returns advances⟩
  | answer answer present' =>
    obtain rfl := Option.some.inj (present.symm.trans present')
    exact ⟨_, rfl, on.answered answer⟩

theorem Moves.started_le (moves : d.Moves now event d') : d.started ≤ d'.started := by
  cases moves with
  | start => exact Nat.le_succ _
  | advance | answer | advanceNone | answerNone | quote | deliver | sweep | trade | purge =>
    exact le_rfl

theorem Runs.heads (run : Runs start steps d) (returns : ReturnsTo start.trader.base path)
    (heads : start.Heads number path) : d.Heads number path := by
  induction run with
  | nil => exact heads
  | concat run stepped ih =>
    have moves := moves_of_step stepped
    -- the path is sized with the base of the desk, which stays the same
    have on := (moves.changes number).on (run.terms.1 ▸ returns) ih
    exact ⟨Nat.lt_of_lt_of_le ih.1 moves.started_le, on⟩

theorem Runs.ne_invalidPath (run : (start.start path).Runs steps d)
    (returns : ReturnsTo start.trader.base path) :
    d.attempts[start.started]? ≠ some (.ended .invalidPath) := by
  have begins : (start.start path).Heads start.started path :=
    ⟨Nat.lt_succ_self _, .found path, attempts_insert_self, rfl⟩
  obtain ⟨_, a, present, on⟩ := run.heads returns begins
  rw [present]
  rintro ⟨⟩
  exact on rfl

end Desk

/-- The loop that is found in a list, with any logarithm, chains usable pairs of the list from the
base back to the base. Its path is never refused, neither by sizing nor in any run that attempts
it, such as after a look of a session. -/
theorem strongestIn_chains :
    (∀ base passes hops pairs, PricedLoop.strongestIn base passes hops pairs =
      PricedLoop.strongestBy Float.log base passes hops pairs) ∧
    (∀ log base passes hops pairs l,
      PricedLoop.strongestBy log base passes hops pairs = some l →
        l.Chains base pairs ∧
        (∀ minReceive gas, Sizing.sizeFor base minReceive l.pairs gas ≠ .invalidPath) ∧
        ∀ (d d' : Desk) (steps : List Desk.Step), d.trader.base = base →
          (d.start l.pairs).Runs steps d' →
            d'.attempts[d.started]? ≠ some (.ended .invalidPath)) ∧
    ∀ (Memory : Type) (s s' : Session Memory) (now : Now) (number : Nat),
      s.look now = (some number, s') → ∀ s'' : Session Memory, s'.Reaches s'' →
        s''.desk.attempts[number]? ≠ some (.ended .invalidPath) := by
  refine ⟨PricedLoop.strongestIn_eq, ?_, ?_⟩
  · intro log base passes hops pairs l found
    obtain ⟨chains, returns⟩ := PricedLoop.chains_of_strongestBy found
    refine ⟨chains, ?_, ?_⟩
    · intro minReceive gas refused
      exact Sizing.sizeFor_eq_invalidPath_iff.mp refused returns
    · rintro d d' steps rfl run
      exact run.ne_invalidPath returns
  · intro Memory s s' now number looked s'' reaches
    obtain ⟨steps, run⟩ := reaches
    rcases s.look_cases now with ⟨_, none⟩ | ⟨l, found, some⟩
    · cases looked.symm.trans none
    · cases looked.symm.trans some
      rw [PricedLoop.strongestIn_eq] at found
      exact run.ne_invalidPath (PricedLoop.chains_of_strongestBy found).2

/-- The pools of `doublingPath`, behind a pair whose last read failed. -/
def doublingListing : List Pair :=
  ⟨.uniswapV2, 0xa0, 1, 2, 1000, 9000, none, true, ⟨⟨1, 0, 0⟩, 0⟩, .none⟩ :: doublingPath

theorem doublingListing_chain :
    ∃ l, PricedLoop.strongestBy doublingLog 1 RateGraph.defaultPasses RateGraph.maxHops
        doublingListing = some l ∧
      l.pairs = doublingPath ∧ l.Chains 1 doublingListing ∧
      Sizing.sizeFor 1 100000000000000 l.pairs .initial ≠ .invalidPath := by
  have pairs : (PricedLoop.strongestBy doublingLog 1 RateGraph.defaultPasses RateGraph.maxHops
      doublingListing).map PricedLoop.pairs = some doublingPath := by
    decide +kernel
  obtain ⟨l, found, same⟩ := Option.map_eq_some_iff.mp pairs
  obtain ⟨chains, sized, _⟩ := strongestIn_chains.2.1 _ _ _ _ _ l found
  exact ⟨l, found, same, chains, sized _ _⟩

end SwapLoops
