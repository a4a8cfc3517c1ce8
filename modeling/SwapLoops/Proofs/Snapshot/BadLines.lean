import SwapLoops.Proofs.Snapshot.Files

/-! A file in which some lines hold no pair. A line of text that holds none costs nothing
but itself, wherever it stands and for whatever reason it holds none. A line that is no
text costs the whole file. -/

namespace SwapLoops.Snapshot

open Text (IsText byteLines utf8)

def pairOfBytes? (line : List UInt8) : Option Pair :=
  (String.fromUTF8? line.toByteArray).bind pairOfLine?

def pairsOfBytes (content : ByteArray) : List Pair := (byteLines content).filterMap pairOfBytes?

theorem pairOfBytes?_utf8 (line : String) : pairOfBytes? (utf8 line.toList) = pairOfLine? line := by
  rw [pairOfBytes?, Text.fromUTF8?_utf8, Option.bind_some, String.ofList_toList]

/-- A file is read line by line, just if all its lines are text. -/
theorem decode?_eq (content : ByteArray) :
    decode? content =
      if ∀ line ∈ byteLines content, IsText line then some (pairsOfBytes content) else none := by
  rw [decode?]
  cases decoded : String.fromUTF8? content with
  | none =>
    have foreign : ¬content.IsValidUTF8 := by
      intro valid
      rw [String.fromUTF8?, dif_pos valid] at decoded
      cases decoded
    rw [if_neg (mt Text.isText_iff_byteLines.mpr foreign), Option.map_none]
  | some s =>
    have valid : content.IsValidUTF8 := by
      by_contra foreign
      rw [String.fromUTF8?, dif_neg foreign] at decoded
      cases decoded
    rw [if_pos (Text.isText_iff_byteLines.mp valid), Option.map_some, pairsOfLines_eq, pairsOfBytes,
      Text.byteLines_of_fromUTF8? decoded, List.filterMap_map]
    apply congrArg some
    apply List.filterMap_congr
    intro line _
    rw [Function.comp_apply, pairOfBytes?_utf8]

section Present

variable {path : Path} {t : FileTree} {content : ByteArray}

theorem load_eq_ite (present : FileTree.read t path = .ok content) :
    load FileTree.system path t =
      (if ∀ line ∈ byteLines content, IsText line then .ok (pairsOfBytes content)
        else .error (.reading path), t) := by
  rw [load_of_read present, ofRead, decode?_eq]
  split_ifs <;> rfl

theorem restore_eq_ite (present : FileTree.read t path = .ok content) (m : Market) :
    restore FileTree.system path m t =
      (if ∀ line ∈ byteLines content, IsText line then .ok (m.deliverPairs (pairsOfBytes content))
        else .error (.reading path), t) := by
  rw [restore, FileTree.bind_apply, load_eq_ite present]
  split_ifs <;> rfl

theorem ite_ok_eq_iff {ε α : Type} {a b : Prop} [Decidable a] [Decidable b] (e : ε) (x : α) :
    (if a then Except.ok x else .error e) = (if b then Except.ok x else .error e) ↔ (a ↔ b) := by
  by_cases here : a <;> by_cases there : b <;> simp [here, there]

section Replaced

variable {front back : List (List UInt8)} {line : List UInt8}

theorem forall_isText_iff (lines : byteLines content = front ++ line :: back) :
    (∀ line ∈ byteLines content, IsText line) ↔
      (∀ other ∈ front ++ back, IsText other) ∧ IsText line := by
  simp only [lines, List.mem_append, List.mem_cons]
  constructor
  · exact fun texts => ⟨fun other member => texts other (by tauto), texts line (by tauto)⟩
  · rintro ⟨others, text⟩ other (member | rfl | member)
    · exact others other (Or.inl member)
    · exact text
    · exact others other (Or.inr member)

theorem pairsOfBytes_eq (lines : byteLines content = front ++ line :: back)
    (bad : pairOfBytes? line = none) :
    pairsOfBytes content = (front ++ back).filterMap pairOfBytes? := by
  rw [pairsOfBytes, lines, List.filterMap_append, List.filterMap_cons_none bad, List.filterMap_append]

end Replaced

/-- A file gives exactly the pairs of those lines that hold one, just if all its lines are text;
if one is not, none of them is given. A line that holds no pair may be replaced by another such
line, just if both are text or neither is, or the file has other lines that are not. -/
theorem load_eq_pairs_iff (present : FileTree.read t path = .ok content) :
    (load FileTree.system path t = (.ok (pairsOfBytes content), t) ↔
        ∀ line ∈ byteLines content, IsText line) ∧
      ((∃ line ∈ byteLines content, ¬IsText line) →
        load FileTree.system path t = (.error (.reading path), t)) ∧
      ∀ {t' : FileTree} {content' : ByteArray} {front back : List (List UInt8)}
        {line line' : List UInt8}, FileTree.read t' path = .ok content' →
        byteLines content = front ++ line :: back → byteLines content' = front ++ line' :: back →
        pairOfBytes? line = none → pairOfBytes? line' = none →
        ((load FileTree.system path t').1 = (load FileTree.system path t).1 ↔
          ((∀ other ∈ front ++ back, IsText other) → (IsText line' ↔ IsText line))) ∧
        ∀ m : Market,
          (restore FileTree.system path m t').1 = (restore FileTree.system path m t).1 ↔
            ((∀ other ∈ front ++ back, IsText other) → (IsText line' ↔ IsText line)) := by
  refine ⟨?given, ?lost, ?replaced⟩
  case given =>
    rw [load_eq_ite present]
    split_ifs with texts
    · exact iff_of_true rfl texts
    · exact iff_of_false (fun given => by cases given) texts
  case lost =>
    rintro ⟨line, member, foreign⟩
    rw [load_eq_ite present, if_neg fun texts => foreign (texts line member)]
  case replaced =>
    intro t' content' front back line line' present' lines lines' bad bad'
    have same : pairsOfBytes content' = pairsOfBytes content := by
      rw [pairsOfBytes_eq lines bad, pairsOfBytes_eq lines' bad']
    have kept : ((∀ line ∈ byteLines content', IsText line) ↔ ∀ line ∈ byteLines content, IsText line) ↔
        ((∀ other ∈ front ++ back, IsText other) → (IsText line' ↔ IsText line)) := by
      rw [forall_isText_iff lines, forall_isText_iff lines']
      tauto
    constructor
    · rw [load_eq_ite present, load_eq_ite present', same, ← kept]
      exact ite_ok_eq_iff _ _
    · intro m
      rw [restore_eq_ite present, restore_eq_ite present', same, ← kept]
      exact ite_ok_eq_iff _ _

end Present

def recordLine : List UInt8 := utf8 notedPair.line.toList

def junkLine : List UInt8 := utf8 ['?']

theorem le_toNat_of_mem_recordLine : ∀ b ∈ recordLine, 0x20 ≤ b.toNat :=
  Text.le_toNat_of_mem_utf8 (le_toNat_of_mem_line notedPair)

theorem isText_recordLine : IsText recordLine := Text.isText_iff.mpr ⟨_, rfl⟩

theorem pairOfBytes?_recordLine : pairOfBytes? recordLine = some { notedPair with earlier := .none } := by
  rw [recordLine, pairOfBytes?_utf8, pairOfLine?_line, if_pos (by decide)]
  rfl

/-- A text that is no record may as well be a blank line. -/
theorem junk_line_costs_itself : ∃ t t',
    FileTree.read t "pairs" = .ok (Text.ofByteLines [junkLine, recordLine]) ∧
    FileTree.read t' "pairs" = .ok (Text.ofByteLines [[], recordLine]) ∧
    load FileTree.system "pairs" t = (.ok [{ notedPair with earlier := .none }], t) ∧
    (load FileTree.system "pairs" t').1 = (load FileTree.system "pairs" t).1 ∧
    ∀ m : Market,
      (restore FileTree.system "pairs" m t').1 = (restore FileTree.system "pairs" m t).1 := by
  obtain ⟨t, present⟩ := exists_present (Text.ofByteLines [junkLine, recordLine])
  obtain ⟨t', present'⟩ := exists_present (Text.ofByteLines [[], recordLine])
  have junk : pairOfBytes? junkLine = none := by decide +kernel
  have blank : pairOfBytes? [] = none := by decide +kernel
  have lines : byteLines (Text.ofByteLines [junkLine, recordLine]) = [junkLine, recordLine] := by
    have clear : ∀ b ∈ junkLine, 0x20 ≤ b.toNat := Text.le_toNat_of_mem_utf8 (by simp)
    exact Text.byteLines_ofByteLines
      (List.forall_mem_cons.mpr ⟨clear, List.forall_mem_singleton.mpr le_toNat_of_mem_recordLine⟩)
  have lines' : byteLines (Text.ofByteLines [[], recordLine]) = [[], recordLine] := by
    apply Text.byteLines_ofByteLines
    simpa using le_toNat_of_mem_recordLine
  have text : IsText junkLine := Text.isText_iff.mpr ⟨_, rfl⟩
  have text' : IsText [] := Text.isText_iff.mpr ⟨[], rfl⟩
  have pairs : pairsOfBytes (Text.ofByteLines [junkLine, recordLine]) =
      [{ notedPair with earlier := .none }] := by
    rw [pairsOfBytes, lines, List.filterMap_cons_none junk,
      List.filterMap_cons_some pairOfBytes?_recordLine, List.filterMap_nil]
  obtain ⟨given, _, replaced⟩ := load_eq_pairs_iff present
  obtain ⟨loads, restores⟩ := @replaced t' _ [] [recordLine] junkLine [] present' lines lines' junk blank
  refine ⟨t, t', present, present', ?_, loads.mpr fun _ => iff_of_true text' text,
    fun m => (restores m).mpr fun _ => iff_of_true text' text⟩
  rw [← pairs]
  refine given.mpr ?_
  rw [lines]
  simpa using ⟨text, isText_recordLine⟩

/-- A line that is no text takes the record of the next line with it. -/
theorem foreign_line_costs_file : ∃ t,
    FileTree.read t "pairs" = .ok (Text.ofByteLines [[0xff], recordLine]) ∧
    pairsOfBytes (Text.ofByteLines [[0xff], recordLine]) = [{ notedPair with earlier := .none }] ∧
    load FileTree.system "pairs" t = (.error (.reading "pairs"), t) := by
  obtain ⟨t, present⟩ := exists_present (Text.ofByteLines [[0xff], recordLine])
  have foreign : ¬IsText [0xff] := by decide +kernel
  have lines : byteLines (Text.ofByteLines [[0xff], recordLine]) = [[0xff], recordLine] := by
    apply Text.byteLines_ofByteLines
    simpa using le_toNat_of_mem_recordLine
  have lost : pairOfBytes? [0xff] = none := by decide +kernel
  refine ⟨t, present, ?_, ?_⟩
  · rw [pairsOfBytes, lines, List.filterMap_cons_none lost,
      List.filterMap_cons_some pairOfBytes?_recordLine, List.filterMap_nil]
  · rw [load_eq_ite present, if_neg]
    rw [lines]
    exact fun texts => foreign (texts _ List.mem_cons_self)

end SwapLoops.Snapshot
