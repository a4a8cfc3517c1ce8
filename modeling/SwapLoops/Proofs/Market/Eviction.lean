import SwapLoops.Proofs.Market.Delivery

/-! What an eviction leaves of a market. It looks at each of its keys again, and removes
only entries that are expired then. -/

namespace SwapLoops.Market

variable {m : Market} {key : Address} {now : Seconds}

theorem evict_cons (m : Market) (key : Address) (keys : List Address) (now : Seconds) :
    m.evict (key :: keys) now = (m.evict [key] now).evict keys now := rfl

theorem evict_absent (absent : m.entries[key]? = none) : m.evict [key] now = m := by
  simp [evict, absent]

theorem evict_live {p : Pair} (present : m.entries[key]? = some p) (live : m.isStaleAt now p = false) :
    m.evict [key] now = m := by
  simp [evict, present, live]

theorem evict_stale {p : Pair} (present : m.entries[key]? = some p) (stale : m.isStaleAt now p = true) :
    m.evict [key] now = { m with entries := m.entries.erase key } := by
  simp [evict, present, stale]

theorem entries_evict_one (m : Market) (key : Address) (now : Seconds) (key' : Address) :
    (m.evict [key] now).entries[key']? =
      if key' = key then m.entries[key']?.filter (!m.isStaleAt now ·) else m.entries[key']? := by
  cases present : m.entries[key]? with
  | none =>
    rw [evict_absent present]
    split_ifs with same
    · rw [same, present, Option.filter_none]
    · rfl
  | some p =>
    cases aged : m.isStaleAt now p with
    | false =>
      rw [evict_live present aged]
      split_ifs with same
      · rw [same, present, Option.filter_some, aged]
        rfl
      · rfl
    | true =>
      rw [evict_stale present aged]
      simp only [Std.ExtTreeMap.getElem?_erase, Std.LawfulEqCmp.compare_eq_iff_eq]
      by_cases same : key' = key
      · rw [if_pos same.symm, if_pos same, same, present, Option.filter_some, aged]
        rfl
      · rw [if_neg (Ne.symm same), if_neg same]

theorem ttl_evict (m : Market) (keys : List Address) (now : Seconds) : (m.evict keys now).ttl = m.ttl := by
  induction keys generalizing m with
  | nil => rfl
  | cons key keys ih =>
    rw [evict_cons, ih]
    simp only [evict, List.foldl_cons, List.foldl_nil]
    split
    · split_ifs <;> rfl
    · rfl

theorem isStaleAt_evict (m : Market) (keys : List Address) (now now' : Seconds) (p : Pair) :
    (m.evict keys now).isStaleAt now' p = m.isStaleAt now' p := by
  rw [isStaleAt, ttl_evict, isStaleAt]

/-- Of the entries under the given keys, those stay that are not expired when they are
evicted. All others stay. -/
theorem entries_evict (m : Market) (keys : List Address) (now : Seconds) (key : Address) :
    (m.evict keys now).entries[key]? =
      if key ∈ keys then m.entries[key]?.filter (!m.isStaleAt now ·) else m.entries[key]? := by
  induction keys generalizing m with
  | nil => rfl
  | cons first keys ih =>
    rw [evict_cons, ih, entries_evict_one]
    simp only [isStaleAt_evict, List.mem_cons]
    by_cases here : key = first
    · by_cases later : key ∈ keys
      · simp [here, Option.filter_filter]
      · simp [here]
    · by_cases later : key ∈ keys
      · simp [here, later]
      · simp [here, later]

theorem entries_evict_cases (m : Market) (keys : List Address) (now : Seconds) (key : Address) :
    (m.evict keys now).entries[key]? = m.entries[key]? ∨
      ∃ p, m.entries[key]? = some p ∧ m.isStaleAt now p = true ∧
        (m.evict keys now).entries[key]? = none := by
  rw [entries_evict]
  split_ifs with asked
  · cases present : m.entries[key]? with
    | none => exact Or.inl rfl
    | some p =>
      cases aged : m.isStaleAt now p with
      | false => exact Or.inl (by simp [aged])
      | true => exact Or.inr ⟨p, rfl, aged, by simp [aged]⟩
  · exact Or.inl rfl

theorem fst_lookUp (m : Market) (key : Address) (now : Seconds) :
    (m.lookUp key now).1 = m.entries[key]?.filter (!m.isStaleAt now ·) := by
  unfold lookUp
  cases present : m.entries[key]? with
  | none => rfl
  | some p => cases aged : m.isStaleAt now p <;> simp [aged, Option.filter_some]

theorem fst_lookUp_new_deliverUpdates (ttl : Seconds) (us : List Update) (key : Address)
    (now : Seconds) :
    (((new ttl).deliverUpdates us).1.lookUp key now).1 =
      (Pair.gather none (addressed key (us.map Update.toPair))).filter
        (!·.provenance.isStale now ttl) := by
  have same : ((new ttl).deliverPairs (us.map Update.toPair)).1.ttl = ttl := ttl_deliverAll ..
  simp only [deliverUpdates, fst_lookUp, isStaleAt, same, entries_new_deliverPairs]

theorem snd_lookUp (m : Market) (key : Address) (now : Seconds) :
    (m.lookUp key now).2 = m.evict [key] now := by
  unfold lookUp
  cases present : m.entries[key]? with
  | none => exact (evict_absent present).symm
  | some p =>
    cases aged : m.isStaleAt now p with
    | false => simp [aged, evict_live present aged]
    | true => simp [aged]

theorem fst_lookUp_evict (m : Market) (keys : List Address) (key : Address) (now : Seconds) :
    ((m.evict keys now).lookUp key now).1 = (m.lookUp key now).1 := by
  simp only [fst_lookUp, entries_evict, isStaleAt_evict]
  split_ifs
  · simp [Option.filter_filter]
  · rfl

end SwapLoops.Market
