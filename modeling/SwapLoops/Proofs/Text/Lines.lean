import Mathlib
import SwapLoops.Text.Lines

/-! Text in lines, seen as characters and as bytes. A text that is cut at its line feeds
gives the same lines as its bytes cut at theirs, so a file is text just if each of its
lines is. -/

namespace SwapLoops.Text

theorem linesFrom_line {line rest : List Char} (clear : '\n' ∉ line) (read : List Char) :
    linesFrom read (line ++ '\n' :: rest) = dropReturn (read.reverse ++ line) :: linesFrom [] rest := by
  induction line generalizing read with
  | nil => rw [List.nil_append, linesFrom, if_pos rfl, List.append_nil]
  | cons c line ih =>
    rw [List.cons_append, linesFrom, if_neg fun same : c = '\n' => clear (same ▸ List.mem_cons_self),
      ih fun member => clear (List.mem_cons_of_mem _ member)]
    simp

theorem linesFrom_last {line : List Char} (clear : '\n' ∉ line) (read : List Char) :
    linesFrom read line = if read.reverse ++ line = [] then [] else [read.reverse ++ line] := by
  induction line generalizing read with
  | nil => simp [linesFrom]
  | cons c line ih =>
    rw [linesFrom, if_neg fun same : c = '\n' => clear (same ▸ List.mem_cons_self),
      ih fun member => clear (List.mem_cons_of_mem _ member)]
    simp

theorem toList_unlines (ls : List String) :
    (unlines ls).toList = ls.flatMap fun l => l.toList ++ ['\n'] := by
  rw [unlines, String.toList_join, List.flatMap_map]
  simp

section Cut

variable {α : Type} [DecidableEq α]

def chopReturn (ret : α) (line : List α) : List α :=
  if line.getLast? = some ret then line.dropLast else line

/-- The lines before the feeds, each without the return at its end. What stands behind the
last feed is a line too, unless nothing does. -/
def cutLines (feed ret : α) (xs : List α) : List (List α) :=
  (xs.splitOn feed).dropLast.map (chopReturn ret) ++
    ((xs.splitOn feed).getLast?.filter (· ≠ [])).toList

variable {feed ret : α}

theorem cutLines_last {xs : List α} (clear : feed ∉ xs) :
    cutLines feed ret xs = if xs = [] then [] else [xs] := by
  rw [cutLines, List.splitOn_eq_singleton clear]
  by_cases empty : xs = [] <;> simp [empty]

theorem cutLines_line {line : List α} (clear : feed ∉ line) (rest : List α) :
    cutLines feed ret (line ++ feed :: rest) = chopReturn ret line :: cutLines feed ret rest := by
  obtain ⟨part, parts, split⟩ := List.exists_cons_of_ne_nil (List.splitOn_ne_nil feed rest)
  rw [cutLines, List.splitOn_append_cons_self_of_not_mem clear, cutLines, split]
  rfl

theorem chopReturn_eq {line : List α} (clear : ret ∉ line) : chopReturn ret line = line := by
  rw [chopReturn, if_neg]
  exact fun last => clear (List.mem_of_getLast? last)

theorem cutLines_flatMap {ls : List (List α)} (clear : ∀ line ∈ ls, feed ∉ line ∧ ret ∉ line) :
    cutLines feed ret (ls.flatMap (· ++ [feed])) = ls := by
  induction ls with
  | nil => rw [List.flatMap_nil, cutLines_last List.not_mem_nil, if_pos rfl]
  | cons line ls ih =>
    obtain ⟨oneLine, whole⟩ := clear line List.mem_cons_self
    rw [List.flatMap_cons, List.append_assoc, List.singleton_append, cutLines_line oneLine,
      chopReturn_eq whole, ih fun line' member => clear line' (List.mem_cons_of_mem _ member)]

/-- Every text is its last line, or a line, a feed and a text. -/
theorem line_induction {motive : List α → Prop} (last : ∀ xs, feed ∉ xs → motive xs)
    (line : ∀ xs rest, feed ∉ xs → motive rest → motive (xs ++ feed :: rest)) (xs : List α) :
    motive xs := by
  by_cases broken : feed ∈ xs
  · obtain ⟨front, rest, whole, clear⟩ := List.eq_append_cons_of_mem broken
    have shorter : rest.length < xs.length := by
      rw [whole, List.length_append, List.length_cons]
      omega
    rw [whole]
    exact line front rest clear (line_induction last line rest)
  · exact last xs broken
termination_by xs.length

end Cut

theorem linesFrom_eq_cutLines (cs : List Char) : linesFrom [] cs = cutLines '\n' '\r' cs := by
  induction cs using @line_induction _ _ '\n' with
  | last xs clear => rw [linesFrom_last clear, cutLines_last clear, List.reverse_nil, List.nil_append]
  | line xs rest clear ih =>
    rw [linesFrom_line clear, cutLines_line clear, ih, List.reverse_nil, List.nil_append]
    rfl

theorem lines_unlines {ls : List String} (clear : ∀ l ∈ ls, ∀ c ∈ l.toList, 0x20 ≤ c.toNat) :
    lines (unlines ls) = ls := by
  have separate : ∀ line ∈ ls.map String.toList, '\n' ∉ line ∧ '\r' ∉ line := by
    intro line member
    obtain ⟨l, source, rfl⟩ := List.mem_map.mp member
    exact ⟨fun feed => absurd (clear l source '\n' feed) (by decide),
      fun ret => absurd (clear l source '\r' ret) (by decide)⟩
  have kept := cutLines_flatMap separate
  rw [List.flatMap_map] at kept
  rw [lines, toList_unlines, linesFrom_eq_cutLines, kept, List.map_map]
  simp

/-! Bytes that stand for characters. -/

def utf8 (cs : List Char) : List UInt8 := cs.flatMap String.utf8EncodeChar

def IsText (bytes : List UInt8) : Prop := bytes.toByteArray.IsValidUTF8

instance (bytes : List UInt8) : Decidable (IsText bytes) :=
  inferInstanceAs (Decidable bytes.toByteArray.IsValidUTF8)

theorem isText_iff {bytes : List UInt8} : IsText bytes ↔ ∃ cs, utf8 cs = bytes := by
  constructor
  · rintro ⟨cs, same⟩
    exact ⟨cs, (List.toByteArray_inj.mp same).symm⟩
  · rintro ⟨cs, rfl⟩
    exact ⟨cs, rfl⟩

theorem utf8_eq_nil_iff {cs : List Char} : utf8 cs = [] ↔ cs = [] := by
  cases cs <;> simp [utf8]

theorem utf8_cons (c : Char) (cs : List Char) : utf8 (c :: cs) = String.utf8EncodeChar c ++ utf8 cs :=
  List.flatMap_cons

theorem utf8_append (cs ds : List Char) : utf8 (cs ++ ds) = utf8 cs ++ utf8 ds :=
  List.flatMap_append

/-- A byte below 128 stands for the character of its own number, and for no part of another. -/
theorem toNat_of_mem_utf8EncodeChar {b : UInt8} (ascii : b.toNat < 0x80) {c : Char}
    (member : b ∈ String.utf8EncodeChar c) : c.toNat = b.toNat ∧ String.utf8EncodeChar c = [b] := by
  have number : c.val.toNat = c.toNat := rfl
  unfold String.utf8EncodeChar at member ⊢
  dsimp only at member ⊢
  split_ifs at member ⊢ with one two three
  · obtain rfl := List.mem_singleton.mp member
    rw [UInt8.toNat_ofNat', Nat.mod_eq_of_lt (by omega)]
    exact ⟨number.symm, rfl⟩
  all_goals
    -- Each byte of a longer encoding has its high bit set.
    simp only [List.mem_cons, List.not_mem_nil, or_false] at member
    have high : 0x80 ≤ b.toNat := by
      rcases member with rfl | rfl | rfl | rfl <;> rw [UInt8.toNat_ofNat'] <;> omega
    omega

theorem exists_of_utf8_eq {b : UInt8} (ascii : b.toNat < 0x80) {cs : List Char}
    {line rest : List UInt8} (whole : utf8 cs = line ++ b :: rest) :
    ∃ front c back, cs = front ++ c :: back ∧ c.toNat = b.toNat ∧ utf8 front = line ∧
      utf8 back = rest := by
  induction cs generalizing line with
  | nil => exact absurd whole.symm (by simp [utf8])
  | cons c cs ih =>
    have encoded : String.utf8EncodeChar c ++ utf8 cs = line ++ b :: rest := whole
    rcases List.append_eq_append_iff.mp encoded with ⟨more, rfl, later⟩ | ⟨more, here, later⟩
    · obtain ⟨front, d, back, rfl, number, rfl, rfl⟩ := ih later
      exact ⟨c :: front, d, back, rfl, number, rfl, rfl⟩
    · cases more with
      | nil =>
        rw [List.append_nil] at here
        obtain ⟨front, d, back, rfl, number, empty, rfl⟩ := @ih [] later.symm
        refine ⟨c :: front, d, back, rfl, number, ?_, rfl⟩
        rw [← here, utf8_cons, empty, List.append_nil]
      | cons b' more =>
        obtain ⟨rfl, remains⟩ := List.cons.inj later
        have member : b ∈ String.utf8EncodeChar c := by
          rw [here]
          simp
        obtain ⟨number, alone⟩ := toNat_of_mem_utf8EncodeChar ascii member
        rw [alone] at here
        rcases List.append_eq_singleton_iff.mp here.symm with ⟨rfl, nothing⟩ | ⟨_, nothing⟩
        · obtain rfl : more = [] := (List.cons.inj nothing).2
          exact ⟨[], c, cs, rfl, number, rfl, remains.symm⟩
        · cases nothing

theorem feed_of_toNat {c : Char} (number : c.toNat = (10 : UInt8).toNat) : c = '\n' :=
  Char.toNat_inj.mp number

theorem return_of_toNat {c : Char} (number : c.toNat = (13 : UInt8).toNat) : c = '\r' :=
  Char.toNat_inj.mp number

theorem feed_notMem_utf8 {cs : List Char} (clear : '\n' ∉ cs) : (10 : UInt8) ∉ utf8 cs := by
  intro member
  obtain ⟨line, rest, whole⟩ := List.append_of_mem member
  obtain ⟨front, c, back, rfl, number, _⟩ := exists_of_utf8_eq (by decide) whole
  obtain rfl := feed_of_toNat number
  exact clear (by simp)

theorem utf8_feed (front back : List Char) : utf8 (front ++ '\n' :: back) = utf8 front ++ 10 :: utf8 back :=
  utf8_append front ('\n' :: back)

theorem chopReturn_utf8 (line : List Char) : chopReturn 13 (utf8 line) = utf8 (dropReturn line) := by
  unfold chopReturn dropReturn
  by_cases ends : line.getLast? = some '\r'
  · obtain ⟨front, rfl⟩ := List.getLast?_eq_some_iff.mp ends
    rw [if_pos ends, List.dropLast_concat, utf8_append]
    have last : utf8 ['\r'] = [13] := rfl
    rw [last, if_pos List.getLast?_concat, List.dropLast_concat]
  · rw [if_neg ends, if_neg]
    intro ends'
    obtain ⟨front, whole⟩ := List.getLast?_eq_some_iff.mp ends'
    obtain ⟨front, c, back, rfl, number, _, nothing⟩ := exists_of_utf8_eq (by decide) whole
    obtain rfl := return_of_toNat number
    rw [utf8_eq_nil_iff.mp nothing] at ends
    exact ends List.getLast?_concat

theorem cutLines_utf8 (cs : List Char) :
    cutLines 10 13 (utf8 cs) = (cutLines '\n' '\r' cs).map utf8 := by
  induction cs using @line_induction _ _ '\n' with
  | last xs clear =>
    rw [cutLines_last clear, cutLines_last (feed_notMem_utf8 clear)]
    by_cases empty : xs = []
    · rw [if_pos empty, if_pos (utf8_eq_nil_iff.mpr empty), List.map_nil]
    · rw [if_neg empty, if_neg (mt utf8_eq_nil_iff.mp empty), List.map_cons, List.map_nil]
  | line xs rest clear ih =>
    rw [cutLines_line clear, utf8_feed, cutLines_line (feed_notMem_utf8 clear), ih, List.map_cons,
      chopReturn_utf8]
    rfl

theorem isText_append_cons_iff {b : UInt8} {c : Char} (ascii : b.toNat < 0x80)
    (encoded : String.utf8EncodeChar c = [b]) (line rest : List UInt8) :
    IsText (line ++ b :: rest) ↔ IsText line ∧ IsText rest := by
  simp only [isText_iff]
  constructor
  · rintro ⟨cs, whole⟩
    obtain ⟨front, _, back, _, _, first, second⟩ := exists_of_utf8_eq ascii whole
    exact ⟨⟨front, first⟩, back, second⟩
  · rintro ⟨⟨front, rfl⟩, back, rfl⟩
    refine ⟨front ++ c :: back, ?_⟩
    rw [utf8_append, utf8_cons, encoded, List.singleton_append]

theorem isText_chopReturn_iff (line : List UInt8) : IsText (chopReturn 13 line) ↔ IsText line := by
  unfold chopReturn
  by_cases ends : line.getLast? = some 13
  · obtain ⟨front, rfl⟩ := List.getLast?_eq_some_iff.mp ends
    have nothing : IsText [] := isText_iff.mpr ⟨[], rfl⟩
    rw [if_pos ends, List.dropLast_concat, @isText_append_cons_iff 13 '\r' (by decide) rfl]
    exact (and_iff_left nothing).symm
  · rw [if_neg ends]

/-- Bytes are text just if each of their lines is. -/
theorem isText_iff_cutLines (bytes : List UInt8) :
    IsText bytes ↔ ∀ line ∈ cutLines 10 13 bytes, IsText line := by
  induction bytes using @line_induction _ _ (10 : UInt8) with
  | last xs clear =>
    rw [cutLines_last clear]
    by_cases empty : xs = []
    · rw [if_pos empty, empty]
      exact iff_of_true (isText_iff.mpr ⟨[], rfl⟩) fun line member => absurd member List.not_mem_nil
    · rw [if_neg empty, List.forall_mem_singleton]
  | line xs rest clear ih =>
    rw [cutLines_line clear, @isText_append_cons_iff 10 '\n' (by decide) rfl, List.forall_mem_cons,
      isText_chopReturn_iff, ih]

def byteLines (content : ByteArray) : List (List UInt8) := cutLines 10 13 content.data.toList

def ofByteLines (ls : List (List UInt8)) : ByteArray := (ls.flatMap (· ++ [10])).toByteArray

theorem le_toNat_of_mem_utf8 {cs : List Char} (clear : ∀ c ∈ cs, 0x20 ≤ c.toNat) :
    ∀ b ∈ utf8 cs, 0x20 ≤ b.toNat := by
  intro b member
  obtain ⟨c, source, here⟩ := List.mem_flatMap.mp member
  by_cases ascii : b.toNat < 0x80
  · rw [← (toNat_of_mem_utf8EncodeChar ascii here).1]
    exact clear c source
  · omega

theorem byteLines_ofByteLines {ls : List (List UInt8)} (clear : ∀ line ∈ ls, ∀ b ∈ line, 0x20 ≤ b.toNat) :
    byteLines (ofByteLines ls) = ls := by
  rw [byteLines, ofByteLines, List.data_toByteArray, List.toList_toArray]
  exact cutLines_flatMap fun line member =>
    ⟨fun feed => absurd (clear line member 10 feed) (by decide),
      fun ret => absurd (clear line member 13 ret) (by decide)⟩

section Decoded

variable {content : ByteArray}

theorem isText_iff_byteLines :
    content.IsValidUTF8 ↔ ∀ line ∈ byteLines content, IsText line := by
  have whole : content.data.toList.toByteArray = content := by
    apply ByteArray.ext
    rw [List.data_toByteArray, Array.toArray_toList]
  rw [byteLines, ← isText_iff_cutLines, IsText, whole]

theorem fromUTF8?_utf8 (cs : List Char) :
    String.fromUTF8? (utf8 cs).toByteArray = some (String.ofList cs) :=
  dif_pos (ByteArray.IsValidUTF8.intro cs rfl)

theorem byteLines_of_fromUTF8? {s : String} (decoded : String.fromUTF8? content = some s) :
    byteLines content = (lines s).map fun line => utf8 line.toList := by
  have bytes : content.data.toList = utf8 s.toList := by
    have same : content = s.toByteArray := by
      unfold String.fromUTF8? at decoded
      split_ifs at decoded
      rw [← Option.some.inj decoded]
      rfl
    rw [same, ← String.utf8Encode_toList, List.utf8Encode, List.data_toByteArray, List.toList_toArray,
      utf8]
  rw [byteLines, bytes, cutLines_utf8, lines, linesFrom_eq_cutLines, List.map_map]
  apply List.map_congr_left
  intro line _
  rw [Function.comp_apply, String.toList_ofList]

end Decoded

end SwapLoops.Text
