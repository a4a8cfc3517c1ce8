import SwapLoops.Proofs.Snapshot.Lines
import SwapLoops.Proofs.Text.Lines
import SwapLoops.Snapshot

/-! A file of pairs, written and loaded: its place in a tree of files, and which of its
lines are read back. -/

namespace SwapLoops

namespace FileTree

theorem follow_insert {t : FileTree} {here parts names : List String} (content : ByteArray)
    (leads : follow t here parts = .free names ∨ ∃ old, follow t here parts = .file names old) :
    t[names]? ≠ some .directory ∧
      follow (t.insert names (.file content)) here parts = .file names content := by
  have put : (t.insert names (.file content))[names]? = some (.file content) :=
    Std.ExtTreeMap.getElem?_insert_self
  fun_induction follow t here parts
  case case1 here => simp at leads
  case case2 here part rest skipped ih =>
    rw [follow.eq_def]
    simpa only [skipped, ↓reduceIte] using ih leads
  case case3 here rest named ih =>
    rw [follow.eq_def]
    simpa only [named, ↓reduceIte] using ih leads
  case case4 => simp at leads
  case case5 here part rest named notUp short there directory ih =>
    obtain ⟨free, followed⟩ := ih leads
    have different : names ≠ there := fun same => free (same ▸ directory)
    have kept : (t.insert names (.file content))[there]? = some .directory := by
      rw [Std.ExtTreeMap.getElem?_insert, if_neg (by simpa using different), directory]
    rw [follow.eq_def]
    simp only [named, notUp, short, ↓reduceIte, Bool.false_eq_true]
    rw [kept]
    exact ⟨free, followed⟩
  case case6 here part named notUp short there old present =>
    have same : there = names := by simpa using leads
    subst same
    rw [follow.eq_def]
    simp only [named, notUp, short, ↓reduceIte, Bool.false_eq_true]
    rw [put, present]
    exact ⟨by simp, rfl⟩
  case case7 => simp at leads
  case case8 here part named notUp short there absent =>
    have same : there = names := by simpa using leads
    subst same
    rw [follow.eq_def]
    simp only [named, notUp, short, ↓reduceIte, Bool.false_eq_true]
    rw [put, absent]
    exact ⟨by simp, rfl⟩
  case case9 => simp at leads

theorem locate_insert {t : FileTree} {p : Path} {names : List String} (content : ByteArray)
    (leads : locate t p = .free names ∨ ∃ old, locate t p = .file names old) :
    locate (t.insert names (.file content)) p = .file names content := by
  unfold locate at leads ⊢
  by_cases empty : p = ""
  · simp [empty] at leads
  · by_cases sound : p.isSound = true
    · simp only [empty, sound, ↓reduceIte] at leads ⊢
      exact (follow_insert content leads).2
    · simp [empty, sound] at leads

theorem locate_write {t t' : FileTree} {p : Path} {content : ByteArray}
    (written : FileTree.write t p content = some t') : ∃ names, locate t' p = .file names content := by
  unfold FileTree.write at written
  cases place : locate t p with
  | file names old =>
    rw [place] at written
    rw [← Option.some.inj written]
    exact ⟨names, locate_insert content (Or.inr ⟨old, place⟩)⟩
  | free names =>
    rw [place] at written
    rw [← Option.some.inj written]
    exact ⟨names, locate_insert content (Or.inl place)⟩
  | directory names => rw [place] at written; cases written
  | missing => rw [place] at written; cases written
  | blocked => rw [place] at written; cases written

theorem read_write {t t' : FileTree} {p : Path} {content : ByteArray}
    (written : FileTree.write t p content = some t') : FileTree.read t' p = .ok content := by
  obtain ⟨names, place⟩ := locate_write written
  rw [FileTree.read, place]

theorem read_rename {t t' : FileTree} {source target : Path} {names : List String} {content : ByteArray}
    (place : locate t source = .file names content) (moved : rename t source target = some t') :
    FileTree.read t' target = .ok content := by
  rw [rename, place] at moved
  exact read_write moved

theorem bind_apply {α β : Type} (x : StateM FileTree α) (f : α → StateM FileTree β) (t : FileTree) :
    (x >>= f) t = f (x t).1 (x t).2 := rfl

theorem attempt_bind {α : Type} (change : FileTree → Option FileTree) (f : Bool → StateM FileTree α)
    (t : FileTree) :
    (attempt change >>= f) t =
      match change t with
      | some t' => f true t'
      | none => f false t := by
  rw [bind_apply, attempt]
  cases change t <;> rfl

end FileTree

namespace Snapshot

variable {pairs : List Pair}

theorem le_toNat_of_mem_line (p : Pair) : ∀ c ∈ p.line.toList, 0x20 ≤ c.toNat := by
  intro c member
  rw [Pair.line, Record.line, Json.write, String.toList_ofList, List.mem_flatMap] at member
  obtain ⟨t, _, written⟩ := member
  exact Json.le_toNat_of_mem_writeToken written

theorem isBlankText_line (p : Pair) : Text.isBlankText p.line = false := by
  rw [Text.isBlankText, Pair.line, Record.line, Json.write, String.toList_ofList, Json.objectTokens]
  rfl

theorem read_of_write {path : Path} {t t' : FileTree} {count : Nat}
    (written : write FileTree.system path pairs t = (.ok count, t')) :
    count = pairs.length ∧ FileTree.read t' path = .ok (encode pairs) := by
  rw [write, FileTree.bind_apply] at written
  cases ensured : (ensureDirectory FileTree.system path.directory? t).1 with
  | error failure =>
    rw [ensured] at written
    cases written
  | ok _ =>
    rw [ensured] at written
    generalize (ensureDirectory FileTree.system path.directory? t).2 = t₁ at written
    simp only [FileTree.system, FileTree.attempt_bind] at written
    cases wrote : FileTree.write t₁ (temporary path) (encode pairs) with
    | none =>
      simp only [wrote] at written
      cases written
    | some t₂ =>
      obtain ⟨names, place⟩ := FileTree.locate_write wrote
      simp only [wrote, ↓reduceIte, FileTree.attempt_bind] at written
      cases moved : FileTree.rename t₂ (temporary path) path with
      | none =>
        simp only [moved] at written
        cases written
      | some t₃ =>
        simp only [moved] at written
        cases written
        exact ⟨rfl, FileTree.read_rename place moved⟩

def pairOfLine? (line : String) : Option Pair :=
  if Text.isBlankText line then none else (Pair.ofLine line).toOption

theorem pairsOfLines_eq (lines : List String) : pairsOfLines lines = lines.filterMap pairOfLine? := rfl

theorem pairOfLine?_line (p : Pair) :
    pairOfLine? p.line = if p.isRestorable then some p.forgetEarlier else none := by
  rw [pairOfLine?, isBlankText_line, if_neg Bool.false_ne_true, Pair.toOption_ofLine_line]

/-- Of the written pairs the lines give back those that can be restored, in their order. -/
theorem decode?_encode (pairs : List Pair) :
    decode? (encode pairs) = some ((pairs.filter Pair.isRestorable).map Pair.forgetEarlier) := by
  have text : String.fromUTF8? (encode pairs) = some (Text.unlines (pairs.map Pair.line)) := by
    simp [String.fromUTF8?, encode, String.fromUTF8, String.isValidUTF8]
  have clear : ∀ l ∈ pairs.map Pair.line, ∀ c ∈ l.toList, 0x20 ≤ c.toNat := by
    intro l member
    obtain ⟨p, _, rfl⟩ := List.mem_map.mp member
    exact le_toNat_of_mem_line p
  rw [decode?, text, Option.map_some, Text.lines_unlines clear, pairsOfLines_eq, List.filterMap_map,
    ← List.filterMap_eq_map, List.filterMap_filter]
  apply congrArg some
  apply List.filterMap_congr
  intro p _
  rw [Function.comp_apply, pairOfLine?_line, Function.comp_apply]

theorem load_of_read {path : Path} {t : FileTree} {content : ByteArray}
    (present : FileTree.read t path = .ok content) :
    load FileTree.system path t = (ofRead path (.ok content), t) := by
  rw [← present]
  rfl

theorem filter_isRestorable (named : ∀ p ∈ pairs, p.address ≠ 0)
    (liquid : ∀ p ∈ pairs, p.reserve0 ≠ 0 ∧ p.reserve1 ≠ 0) :
    pairs.filter Pair.isRestorable = pairs :=
  List.filter_eq_self.mpr fun p member => Pair.isRestorable_iff.mpr ⟨named p member, liquid p member⟩

/-- Pairs that were written are loaded again, wherever that was. -/
theorem load_of_write (named : ∀ p ∈ pairs, p.address ≠ 0)
    (liquid : ∀ p ∈ pairs, p.reserve0 ≠ 0 ∧ p.reserve1 ≠ 0)
    {path : Path} {t t' : FileTree} {count : Nat}
    (written : write FileTree.system path pairs t = (.ok count, t')) :
    load FileTree.system path t' = (.ok (pairs.map Pair.forgetEarlier), t') := by
  rw [load_of_read (read_of_write written).2, ofRead, decode?_encode, filter_isRestorable named liquid]

theorem locate_name {t : FileTree} {name : String}
    (plain : name ∉ ["", ".", ".."] ∧ Path.parts name = (false, [name]) ∧ Path.isSound name = true ∧
      FileTree.isTooLong name = false)
    (free : t[[name]]? = none) : FileTree.locate t name = .free [name] := by
  obtain ⟨step, parts, sound, short⟩ := plain
  simp only [List.mem_cons, List.not_mem_nil, or_false, not_or] at step
  simp [FileTree.locate, parts, sound, FileTree.follow, FileTree.startOf, short, free, step]

theorem locate_pairs {t : FileTree} (free : t[["pairs"]]? = none) :
    FileTree.locate t "pairs" = .free ["pairs"] :=
  locate_name (by decide +kernel) free

theorem exists_present (content : ByteArray) : ∃ t, FileTree.read t "pairs" = .ok content := by
  have written : FileTree.write ∅ "pairs" content =
      some (Std.ExtTreeMap.insert (∅ : FileTree) ["pairs"] (.file content)) := by
    rw [FileTree.write, locate_pairs Std.ExtTreeMap.getElem?_empty]
  exact ⟨_, FileTree.read_write written⟩

theorem exists_saved (ps : List Pair) :
    ∃ t, write FileTree.system "pairs" ps ∅ = (.ok ps.length, t) := by
  have directory : Path.directory? "pairs" = none := by decide +kernel
  have beside : temporary "pairs" = "pairs.tmp" := by decide +kernel
  have free : FileTree.locate ∅ "pairs.tmp" = .free ["pairs.tmp"] :=
    locate_name (by decide +kernel) Std.ExtTreeMap.getElem?_empty
  have free' : ∀ content, FileTree.locate
      ((Std.ExtTreeMap.insert (∅ : FileTree) ["pairs.tmp"] (.file content)).erase ["pairs.tmp"]) "pairs" =
        .free ["pairs"] := fun content => locate_pairs (by simp)
  have place := FileTree.locate_insert (encode ps) (Or.inl free)
  rw [write, directory, beside, FileTree.bind_apply]
  simp [ensureDirectory, pure, StateT.pure, FileTree.system, FileTree.attempt_bind, FileTree.write, free,
    FileTree.rename, place, free']

/-- Whatever pairs are written, those that can be restored are loaded in their order, without
their notes. The lines of the others cost nothing but themselves. -/
theorem load_eq_restorable {path : Path} {t t' : FileTree} {count : Nat}
    (written : write FileTree.system path pairs t = (.ok count, t')) :
    count = pairs.length ∧
      load FileTree.system path t' =
        (.ok ((pairs.filter Pair.isRestorable).map Pair.forgetEarlier), t') := by
  obtain ⟨counted, present⟩ := read_of_write written
  refine ⟨counted, ?_⟩
  rw [load_of_read present, ofRead, decode?_encode]

def notedPair : Pair :=
  ⟨.uniswapV2, 0xaa, 0x70, 0x71, 1000, 2000, some 25, true, ⟨.endOf 9, 0⟩, ⟨some ⟨8, 0, 2⟩, none, none⟩⟩

/-- A state with notes, one without an address, one with an empty side, and one with the
greatest reserves, that was seen before the epoch. -/
def mixedPairs : List Pair :=
  [notedPair,
    ⟨.uniswapV2, 0, 0x70, 0x71, 1000, 2000, none, false, ⟨⟨7, 0, 0⟩, 0⟩, .none⟩,
    ⟨.uniswapV2, 0xbb, 0x70, 0x71, 0, 2000, none, false, ⟨⟨7, 0, 1⟩, 0⟩, .none⟩,
    ⟨.uniswapV2, 0xcc, 0, 0, -1, -1, none, false, ⟨⟨-1, -1, -1⟩, -5⟩, .none⟩]

theorem mixedPairs_are_loaded : ∃ count t,
    write FileTree.system "pairs" mixedPairs ∅ = (.ok count, t) ∧ count = 4 ∧
    load FileTree.system "pairs" t =
      (.ok [{ notedPair with earlier := .none },
        ⟨.uniswapV2, 0xcc, 0, 0, -1, -1, none, false, ⟨⟨-1, -1, -1⟩, -5⟩, .none⟩], t) := by
  obtain ⟨t, saved⟩ := exists_saved mixedPairs
  have kept : mixedPairs.filter Pair.isRestorable = [mixedPairs[0], mixedPairs[3]] := by decide
  obtain ⟨counted, loaded⟩ := load_eq_restorable saved
  rw [kept] at loaded
  exact ⟨_, t, saved, counted, loaded⟩

end Snapshot

end SwapLoops
