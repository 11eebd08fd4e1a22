import LanguageBridge.Proofs.Editor.Lines
import Mathlib.Data.List.DropRight
import Mathlib.Data.List.GetD

/-!
# The word in front of a column

A word in front of a column is the longest one: it goes back from there to the first character that
stands in no word, or to the start of the line.  `longest_word_before` says that this word is found
at every place, also at those that the text does not have: a line that is missing counts as empty,
and a column outside its line as the nearest one inside.

Which line is meant is said without a list of lines (`LineAt`).  If a line break is put at either
end of a text, its lines are what stands between two neighbouring line breaks.
-/

namespace LanguageBridge.Editor

/-! ## The line with a number -/

/-- The line with a number, counted from zero: what stands between two neighbouring line breaks when
as many of them stand in front of these two, and nothing if the text has too few. -/
def LineAt (text : List Char) (n : Nat) (line : List Char) : Prop :=
  if n ≤ text.count '\n' then
    '\n' ∉ line ∧ ∃ front back,
      '\n' :: text ++ ['\n'] = front ++ '\n' :: line ++ '\n' :: back ∧ front.count '\n' = n
  else line = []

/-- No line contains a line break. -/
theorem newline_notMem_of_mem_linesOf {cs line : List Char} (mem : line ∈ linesOf cs) :
    '\n' ∉ line := by
  induction cs generalizing line with
  | nil =>
      rw [linesOf, List.mem_singleton] at mem
      rw [mem]
      exact List.not_mem_nil
  | cons c rest ih =>
      by_cases break_ : c = '\n'
      · rw [break_, linesOf_newline, List.mem_cons] at mem
        rcases mem with rfl | later
        · exact List.not_mem_nil
        · exact ih later
      · obtain ⟨first, more, lines⟩ := List.exists_cons_of_ne_nil (linesOf_ne_nil rest)
        rw [linesOf_cons break_ lines, List.mem_cons] at mem
        rw [lines] at ih
        rcases mem with rfl | later
        · intro broken
          rcases List.mem_cons.1 broken with own | behind
          · exact break_ own.symm
          · exact ih List.mem_cons_self behind
        · exact ih (List.mem_cons_of_mem _ later)

/-- Line by line, with a line break in front of each, the lines are the text. -/
theorem flatMap_linesOf (cs : List Char) :
    (linesOf cs).flatMap ('\n' :: ·) = '\n' :: cs := by
  induction cs with
  | nil => rfl
  | cons c rest ih =>
      by_cases break_ : c = '\n'
      · rw [break_, linesOf_newline, List.flatMap_cons, ih]
        rfl
      · obtain ⟨first, more, lines⟩ := List.exists_cons_of_ne_nil (linesOf_ne_nil rest)
        rw [lines, List.flatMap_cons, List.cons_append, List.cons_inj_right] at ih
        rw [linesOf_cons break_ lines, List.flatMap_cons, List.cons_append, List.cons_append, ih]

/-- As many line breaks are written as there are lines. -/
theorem count_flatMap_of_notMem {lines : List (List Char)} (unbroken : ∀ line ∈ lines, '\n' ∉ line) :
    (lines.flatMap ('\n' :: ·)).count '\n' = lines.length := by
  induction lines with
  | nil => rfl
  | cons line more ih =>
      rw [List.flatMap_cons, List.count_append, List.count_cons_self,
        List.count_eq_zero_of_not_mem (unbroken line List.mem_cons_self),
        ih fun other mem => unbroken other (List.mem_cons_of_mem _ mem), List.length_cons,
        Nat.zero_add, Nat.add_comm]

/-- The lines of a text are its lines, and beyond the last one there are only empty ones. -/
theorem lineAt_getD_linesOf (cs : List Char) (n : Nat) : LineAt cs n ((linesOf cs).getD n []) := by
  unfold LineAt
  split
  case isTrue there =>
      have within : n < (linesOf cs).length := by
        rw [length_linesOf]
        exact Nat.lt_succ_of_le there
      rw [List.getD_eq_getElem _ _ within]
      refine ⟨newline_notMem_of_mem_linesOf (List.getElem_mem within), ?_⟩
      have unbroken : ∀ line ∈ (linesOf cs).take n, '\n' ∉ line := fun line mem =>
        newline_notMem_of_mem_linesOf (List.mem_of_mem_take mem)
      -- Behind the line stands the break in front of the next one, or the one at the end.
      obtain ⟨back, behind⟩ : ∃ back,
          ((linesOf cs).drop (n + 1)).flatMap ('\n' :: ·) ++ ['\n'] = '\n' :: back := by
        cases (linesOf cs).drop (n + 1) with
        | nil => exact ⟨[], rfl⟩
        | cons next more => exact ⟨_, by rw [List.flatMap_cons, List.cons_append, List.cons_append]⟩
      refine ⟨((linesOf cs).take n).flatMap ('\n' :: ·), back, ?_, ?_⟩
      · rw [← flatMap_linesOf, ← behind]
        conv_lhs => rw [← List.take_append_drop n (linesOf cs), List.drop_eq_getElem_cons within]
        simp only [List.flatMap_append, List.flatMap_cons, List.append_assoc]
      · rw [count_flatMap_of_notMem unbroken, List.length_take, Nat.min_eq_left (Nat.le_of_lt within)]
  case isFalse beyond =>
      refine List.getD_eq_default _ _ ?_
      rw [length_linesOf]
      exact Nat.lt_of_not_le beyond

/-! ## The longest word at the end -/

/-- A run of word characters at the end of a line is the longest one if no word character stands in
front of it. -/
theorem trailingWord_append {front word : List Char}
    (letters : ∀ c ∈ word, Text.isWordCharacter c = true)
    (whole : ∀ c ∈ front.getLast?, Text.isWordCharacter c = false) :
    trailingWord (front ++ word) = word := by
  have none : front.rtakeWhile Text.isWordCharacter = [] := by
    refine List.rtakeWhile_eq_nil_iff.2 fun some => ?_
    rw [Bool.not_eq_true]
    exact whole _ (List.getLast?_eq_some_getLast some)
  calc trailingWord (front ++ word)
      = front.rtakeWhile Text.isWordCharacter ++ word := by
        rw [trailingWord, List.reverse_append, List.takeWhile_append_of_pos
          (fun c mem => letters c (List.mem_reverse.1 mem)), List.reverse_append,
          List.reverse_reverse]
        rfl
    _ = word := by rw [none, List.nil_append]

/-- Only word characters stand in the word at the end of a line. -/
theorem isWordCharacter_of_mem_trailingWord {cs : List Char} {c : Char} (mem : c ∈ trailingWord cs) :
    Text.isWordCharacter c = true :=
  List.mem_rtakeWhile_imp mem

/-- What is left in front of the word at the end of a line does not end with a word character. -/
theorem exists_append_trailingWord (cs : List Char) :
    ∃ front, front ++ trailingWord cs = cs ∧
      ∀ c ∈ front.getLast?, Text.isWordCharacter c = false := by
  refine ⟨cs.rdropWhile Text.isWordCharacter, List.rdropWhile_append_rtakeWhile, ?_⟩
  intro c last
  obtain ⟨some, rfl⟩ := List.mem_getLast?_eq_getLast last
  exact Bool.eq_false_iff.2 (List.rdropWhile_last_not _ _ some)

/-! ## The word at a place -/

/-- A word with its columns is the one that ends at a column of a line. -/
structure WordAt.EndsAt (w : WordAt) (line : List Char) (column : Nat) : Prop where
  /-- It ends at the column, or at the nearest one that the line has. -/
  stop : w.endColumn.toNat = max 1 (min column (line.length + 1))
  /-- It starts at a column of the line, as many columns in front of its end as it has
  characters. -/
  start : 1 ≤ w.startColumn.toNat ∧ w.startColumn.toNat + w.word.toList.length = w.endColumn.toNat
  /-- It has the characters of the line in its columns. -/
  exact : w.word.toList = (line.take (w.endColumn.toNat - 1)).drop (w.startColumn.toNat - 1)
  /-- All of them are word characters. -/
  letters : ∀ c ∈ w.word.toList, Text.isWordCharacter c = true
  /-- The character in front of it, if there is one, is none. -/
  whole : ∀ c ∈ (line.take (w.startColumn.toNat - 1)).getLast?, Text.isWordCharacter c = false

/-- At most one word ends at a column. -/
theorem WordAt.EndsAt.unique {v w : WordAt} {line : List Char} {column : Nat}
    (first : v.EndsAt line column) (second : w.EndsAt line column) : v = w := by
  have word {u : WordAt} (ends : u.EndsAt line column) :
      u.word.toList = trailingWord (line.take (max 1 (min column (line.length + 1)) - 1)) := by
    have before : line.take (u.startColumn.toNat - 1)
        = (line.take (u.endColumn.toNat - 1)).take (u.startColumn.toNat - 1) := by
      rw [List.take_take, Nat.min_eq_left]
      have := ends.start.2
      omega
    have whole := ends.whole
    rw [before] at whole
    rw [← ends.stop, ← trailingWord_append ends.letters whole, ends.exact, List.take_append_drop]
  have same : v.word = w.word := String.toList_inj.1 ((word first).trans (word second).symm)
  have stop : v.endColumn.toNat = w.endColumn.toNat := first.stop.trans second.stop.symm
  have start : v.startColumn.toNat = w.startColumn.toNat := by
    have own := first.start.2
    rw [same, stop, ← second.start.2] at own
    exact Nat.add_right_cancel own
  cases v
  cases w
  exact (WordAt.mk.injEq ..).mpr ⟨same, UInt32.toNat_inj.1 start, UInt32.toNat_inj.1 stop⟩

/-- The word that is found at a place ends there. -/
theorem wordBefore_endsAt (text : String) (place : Position) :
    (wordBefore text place).EndsAt ((linesOf text.toList).getD (place.line.toNat - 1) [])
      place.column.toNat := by
  let line := (linesOf text.toList).getD (place.line.toNat - 1) []
  let column := max 1 (min place.column.toNat (line.length + 1))
  let word := trailingWord (line.take (column - 1))
  -- A column is a word, so that a line may well be longer than the greatest one.
  have within : place.column.toNat ≤ Word32.greatest := Nat.le_of_lt_succ place.column.toNat_lt
  have small : column < UInt32.size :=
    Nat.max_lt.2 ⟨by decide, Nat.lt_of_le_of_lt (Nat.min_le_left _ _) place.column.toNat_lt⟩
  have found : wordBefore text place
      = ⟨String.ofList word, UInt32.ofNat (column - word.length), UInt32.ofNat column⟩ := by
    have same : max 1 (min place.column.toNat
        (min (min line.length Word32.greatest + 1) Word32.greatest)) = column := by
      simp only [column]
      omega
    simp only [wordBefore, word, line] at same ⊢
    rw [same]
  obtain ⟨front, split, whole⟩ := exists_append_trailingWord (line.take (column - 1))
  have lengths : front.length + word.length = column - 1 := by
    rw [← List.length_append, split, List.length_take, Nat.min_eq_left]
    simp only [column]
    omega
  have stop : (UInt32.ofNat column).toNat = column := UInt32.toNat_ofNat_of_lt' small
  have start : (UInt32.ofNat (column - word.length)).toNat = front.length + 1 := by
    rw [UInt32.toNat_ofNat_of_lt' (Nat.lt_of_le_of_lt (Nat.sub_le _ _) small)]
    omega
  have before : front <+: line := by
    refine (List.prefix_append front word).trans ?_
    rw [split]
    exact List.take_prefix _ line
  rw [found]
  constructor
  case stop => exact stop
  case start =>
    rw [start, stop, String.toList_ofList]
    omega
  case exact =>
    rw [start, stop, String.toList_ofList, ← split, Nat.add_sub_cancel, List.drop_left]
  case letters =>
    rw [String.toList_ofList]
    exact fun c => isWordCharacter_of_mem_trailingWord
  case whole =>
    rw [start, Nat.add_sub_cancel, ← List.prefix_iff_eq_take.1 before]
    exact whole

/-- Every text and every place have exactly one word that ends there on the line of that place, and
it is the one that is found. -/
theorem longest_word_before (text : String) (place : Position) :
    ∃ line, LineAt text.toList (place.line.toNat - 1) line ∧
      ∀ w : WordAt, w.EndsAt line place.column.toNat ↔ w = wordBefore text place := by
  refine ⟨_, lineAt_getD_linesOf text.toList (place.line.toNat - 1), fun w => ⟨fun ends => ?_, ?_⟩⟩
  · exact ends.unique (wordBefore_endsAt text place)
  · rintro rfl
    exact wordBefore_endsAt text place

/-- A column behind the line counts as its end. -/
example : wordBefore "a = b.cd\n" ⟨1, 40⟩ = ⟨"cd", 7, 9⟩ := by decide +kernel

end LanguageBridge.Editor
