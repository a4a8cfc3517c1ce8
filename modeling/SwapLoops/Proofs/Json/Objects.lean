import SwapLoops.Json.Reader
import SwapLoops.Proofs.Json.Lexing

/-! An object whose members are single tokens, written and read back. -/

namespace SwapLoops.Json

namespace Token

def isScalar : Token → Bool
  | .null | .bool _ | .int _ | .real | .text _ => true
  | _ => false

def value : Token → Json
  | .bool b => .bool b
  | .int n => .int n
  | .real => .real
  | .text s => .text s
  | _ => .null

end Token

def entry (member : String × Token) : List Token := [.text member.1, .colon, member.2]

theorem objectTokens_cons (member : String × Token) (members : List (String × Token)) :
    objectTokens (member :: members) =
      .beginObject :: (entry member ++ members.flatMap fun m => .comma :: entry m) ++ [.endObject] := by
  have joined : ∀ (members : List (String × Token)) (first : List Token),
      List.intercalate [.comma] (first :: members.map entry) =
        first ++ members.flatMap fun m => .comma :: entry m := by
    intro members
    induction members with
    | nil => simp
    | cons m members ih =>
      intro first
      rw [List.map_cons, List.intercalate_cons_cons, ih]
      simp
  exact congrArg (fun entries => .beginObject :: entries ++ [.endObject]) (joined members (entry member))

theorem isChain_entries {members : List (String × Token)} {last : Token}
    (closed : last.isNumber = false) :
    ((members.flatMap fun m => .comma :: entry m) ++ [last]).IsChain
      fun t t' => t.isNumber = true → t'.isNumber = false := by
  induction members with
  | nil => simp
  | cons m members ih =>
    have behind : ∀ t, ((members.flatMap fun m => .comma :: entry m) ++ [last]).head? = some t →
        t.isNumber = false := by
      cases members with
      | nil => simpa using closed
      | cons m members => simp [Token.isNumber]
    simp only [List.flatMap_cons, entry, List.cons_append, List.nil_append, List.isChain_cons_cons]
    refine ⟨fun _ => rfl, fun _ => rfl, nofun, ?_⟩
    exact List.isChain_cons.mpr ⟨fun t next _ => behind t next, ih⟩

theorem isChain_objectTokens (members : List (String × Token)) :
    (objectTokens members).IsChain fun t t' => t.isNumber = true → t'.isNumber = false := by
  cases members with
  | nil => exact List.isChain_cons_cons.mpr ⟨fun _ => rfl, List.isChain_singleton _⟩
  | cons m members =>
    have rest := @isChain_entries (m :: members) .endObject rfl
    rw [List.flatMap_cons, List.cons_append, List.cons_append] at rest
    rw [objectTokens_cons]
    exact List.isChain_cons.mpr ⟨fun t _ => nofun, rest.of_cons⟩

theorem stepValue_of_isScalar (stack : List Frame) {t : Token} (scalar : t.isScalar = true) :
    stepValue stack t = finish stack t.value := by
  cases t with
  | beginObject => cases scalar
  | endObject => cases scalar
  | beginList => cases scalar
  | endList => cases scalar
  | comma => cases scalar
  | colon => cases scalar
  | _ => rfl

theorem foldlM_entry (fields : List (String × Json)) {expects : Expects}
    (named : expects = .firstName ∨ expects = .name) {m : String × Token} (scalar : m.2.isScalar = true) :
    (entry m).foldlM step ⟨[.object fields], expects⟩ =
      some ⟨[.object ((m.1, m.2.value) :: fields)], .separator⟩ := by
  rcases named with rfl | rfl
  · simp [entry, step, stepName, stepColon, stepValue_of_isScalar _ scalar, finish]
  · simp [entry, step, stepName, stepColon, stepValue_of_isScalar _ scalar, finish]

theorem foldlM_entries {members : List (String × Token)} (scalar : ∀ m ∈ members, m.2.isScalar = true)
    (fields : List (String × Json)) :
    (members.flatMap fun m => .comma :: entry m).foldlM step ⟨[.object fields], .separator⟩ =
      some ⟨[.object ((members.map fun m => (m.1, m.2.value)).reverse ++ fields)], .separator⟩ := by
  induction members generalizing fields with
  | nil => rfl
  | cons m members ih =>
    have comma : step ⟨[.object fields], .separator⟩ .comma = some ⟨[.object fields], .name⟩ := rfl
    rw [List.flatMap_cons, List.cons_append, List.foldlM_cons, comma, Option.bind_eq_bind,
      Option.bind_some, List.foldlM_append, foldlM_entry fields (Or.inr rfl) (scalar m List.mem_cons_self),
      Option.bind_eq_bind, Option.bind_some,
      ih fun m' member => scalar m' (List.mem_cons_of_mem _ member)]
    simp

theorem ofTokens?_objectTokens {members : List (String × Token)}
    (scalar : ∀ m ∈ members, m.2.isScalar = true) :
    ofTokens? (objectTokens members) = some (.object (members.map fun m => (m.1, m.2.value))) := by
  cases members with
  | nil => rfl
  | cons m members =>
    have begins : step .initial .beginObject = some ⟨[.object []], .firstName⟩ := rfl
    rw [ofTokens?, objectTokens_cons, List.cons_append, List.foldlM_cons, begins, Option.bind_eq_bind,
      Option.bind_some, List.foldlM_append, List.foldlM_append,
      foldlM_entry [] (Or.inl rfl) (scalar m List.mem_cons_self), Option.bind_eq_bind, Option.bind_some,
      foldlM_entries fun m' member => scalar m' (List.mem_cons_of_mem _ member)]
    simp [step, stepSeparator, endObject, finish]

/-- An object of single values is read back as it was written. -/
theorem ofText?_write_object {members : List (String × Token)}
    (scalar : ∀ m ∈ members, m.2.isScalar = true) (fit : ∀ m ∈ members, m.2.Fits) :
    ofText? (write (objectTokens members)) =
      some (.object (members.map fun m => (m.1, m.2.value))) := by
  have fit' : ∀ t ∈ objectTokens members, t.Fits := by
    intro t member
    cases members with
    | nil => fin_cases member <;> trivial
    | cons m members =>
      rw [objectTokens_cons] at member
      simp only [entry, List.cons_append, List.nil_append, List.mem_cons, List.mem_append,
        List.mem_flatMap, List.not_mem_nil, or_false] at member
      rcases member with rfl | rfl | rfl | rfl | ⟨m', source, rfl | rfl | rfl | rfl⟩ | rfl
      all_goals first
        | trivial
        | exact fit _ (by simp [*])
  rw [ofText?, lex_write fit' (isChain_objectTokens members), Option.bind_some,
    ofTokens?_objectTokens scalar]

end SwapLoops.Json
