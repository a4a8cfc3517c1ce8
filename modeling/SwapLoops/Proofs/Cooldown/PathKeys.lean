import SwapLoops.PathKey
import SwapLoops.Proofs.Cooldown.Purges
import SwapLoops.Proofs.Text.Numbers

/-! Keys of paths. A key falls back into the addresses that it was joined from, so paths that
differ have windows of their own, and calls about the one do not show in the window of the other. -/

namespace SwapLoops

section Keys

variable {path : List Address}

theorem Address.dash_notMem_digits (a : Address) : '-' ∉ a.digits := by
  intro member
  have digit : (Digits.value? '-').isSome = true :=
    Digits.value?_isSome_of_toNat? (toNat?_digits a) '-' member
  exact absurd digit (by decide)

theorem splitOn_pathKey (present : path ≠ []) :
    (pathKey path).toList.splitOn '-' = path.map Address.digits := by
  rw [pathKey, String.toList_ofList]
  refine List.splitOn_intercalate '-' ?_ (mt List.map_eq_nil_iff.mp present)
  intro part member
  obtain ⟨a, _, rfl⟩ := List.mem_map.mp member
  exact a.dash_notMem_digits

theorem pathKey_eq_empty_iff : pathKey path = "" ↔ path = [] := by
  constructor
  · intro empty
    by_contra present
    obtain ⟨a, rest, rfl⟩ := List.exists_cons_of_ne_nil present
    have parts := splitOn_pathKey present
    rw [empty] at parts
    have none : [] = a.digits := (List.cons.inj parts).1
    have width : a.digits.length = 40 := Digits.length_hex 40 a.toNat
    rw [← none] at width
    cases width
  · rintro rfl
    rfl

theorem pathKey_injective : Function.Injective pathKey := by
  intro path other same
  rcases eq_or_ne other [] with rfl | present
  · exact pathKey_eq_empty_iff.mp same
  · have present' : path ≠ [] := by
      rintro rfl
      exact present (pathKey_eq_empty_iff.mp same.symm)
    have parts : path.map Address.digits = other.map Address.digits := by
      rw [← splitOn_pathKey present', same, splitOn_pathKey present]
    exact List.map_injective_iff.mpr Address.digits_injective parts

end Keys

namespace Cooldown

def Call.isWithin (keeps : String → Bool) : Call → Bool
  | enter key _ => keeps key
  | noteFailure key _ => keeps key
  | purge => true

variable {keeps : String → Bool} {c c' c₁ c₁' c₂ : Cooldown} {key : String} {now : Moment}
  {call : Call} {calls : List (Moment × Call)} {w : Window}

structure Agrees (keeps : String → Bool) (c₁ c₂ : Cooldown) : Prop where
  ttl : c₁.ttl = c₂.ttl
  backoff : c₁.backoff = c₂.backoff
  windows : ∀ key, keeps key = true → c₁.windows[key]? = c₂.windows[key]?

namespace Agrees

theorem refl (keeps : String → Bool) (c : Cooldown) : Agrees keeps c c :=
  ⟨rfl, rfl, fun _ _ => rfl⟩

theorem set (agrees : Agrees keeps c₁ c₂) (key : String) (w : Window) :
    Agrees keeps (c₁.set key w) (c₂.set key w) := by
  refine ⟨agrees.ttl, agrees.backoff, fun other kept => ?_⟩
  by_cases same : other = key
  · rw [same, windows_set_self, windows_set_self]
  · rw [windows_set_of_ne same, windows_set_of_ne same, agrees.windows other kept]

theorem purge (agrees : Agrees keeps c₁ c₂) (now : Moment) :
    Agrees keeps (c₁.purge now) (c₂.purge now) :=
  ⟨agrees.ttl, agrees.backoff,
    fun key kept => windows_purge_congr agrees.ttl (agrees.windows key kept)⟩

/-- What the one cooldown answers to a call about a key that is kept, the other answers as well. -/
theorem exists_answers (agrees : Agrees keeps c₁ c₂) (within : call.isWithin keeps = true)
    (answers : c₁.Answers now call c₁') :
    ∃ c₂', c₂.Answers now call c₂' ∧ Agrees keeps c₁' c₂' := by
  cases call with
  | enter key passed =>
    have same : c₁.windows[key]? = c₂.windows[key]? := agrees.windows key within
    have opens : c₁.opensAt key now = c₂.opensAt key now := by rw [opensAt, opensAt, same]
    rcases enter_cases answers with ⟨rfl, rfl, early⟩ | ⟨rfl, rfl, due, tellable⟩
    · exact ⟨c₂, enter_of_held (opens ▸ early), agrees⟩
    · refine ⟨_, enter_of_due (opens ▸ due) (agrees.ttl ▸ tellable), ?_⟩
      rw [show c₁.failures key = c₂.failures key by rw [failures, failures, same], agrees.ttl]
      exact agrees.set key _
  | noteFailure key failures =>
    obtain ⟨w, rfl, noted⟩ := exists_noteFailure (agrees.windows key within) agrees.backoff answers
    exact ⟨_, noted, agrees.set key w⟩
  | purge =>
    cases answers
    exact ⟨_, rfl, agrees.purge now⟩

theorem aside (agrees : Agrees keeps c₁ c₂) (beyond : call.isWithin keeps = false)
    (answers : c₁.Answers now call c₁') : Agrees keeps c₁' c₂ := by
  refine ⟨answers.durations.1.trans agrees.ttl, answers.durations.2.trans agrees.backoff,
    fun key kept => ?_⟩
  rw [← agrees.windows key kept]
  have off : call.isOn key = false := by
    cases call with
    | enter other _ | noteFailure other _ =>
      refine decide_eq_false ?_
      rintro rfl
      exact Bool.false_ne_true (beyond.symm.trans kept)
    | purge => rfl
  refine answers.windows_eq off ?_
  rintro rfl
  cases beyond

end Agrees

/-- The calls about the keys that are kept, and the purges, are a history of their own. -/
theorem History.exists_within (history : c₁.History calls c₁') (agrees : Agrees keeps c₁ c₂) :
    ∃ c₂', c₂.History (calls.filter fun (_, call) => call.isWithin keeps) c₂' ∧
      Agrees keeps c₁' c₂' := by
  induction history generalizing c₂ with
  | nil => exact ⟨c₂, .nil c₂, agrees⟩
  | @cons _ _ _ now call calls first _ ih =>
    cases within : call.isWithin keeps with
    | true =>
      obtain ⟨next, answers, agrees⟩ := agrees.exists_answers within first
      obtain ⟨last, rest, agrees⟩ := ih agrees
      rw [List.filter_cons, if_pos within]
      exact ⟨last, .cons answers rest, agrees⟩
    | false =>
      rw [List.filter_cons, if_neg (by simp [within])]
      exact ih (agrees.aside within first)

/-- The calls that are about none of some paths. -/
def besides (paths : List (List Address)) (calls : List (Moment × Call)) : List (Moment × Call) :=
  calls.filter fun (_, call) => call.isWithin fun key => key ∉ paths.map pathKey

theorem History.exists_besides (history : c.History calls c') (others : List (List Address)) :
    ∃ c'', c.History (besides others calls) c'' ∧
      ∀ path ∉ others, c''.windows[pathKey path]? = c'.windows[pathKey path]? := by
  obtain ⟨c'', rest, agrees⟩ := history.exists_within
    (.refl (fun key => key ∉ others.map pathKey) c)
  refine ⟨c'', rest, fun path differs => (agrees.windows (pathKey path) (decide_eq_true ?_)).symm⟩
  rwa [List.mem_map_of_injective pathKey_injective]

end Cooldown

end SwapLoops
