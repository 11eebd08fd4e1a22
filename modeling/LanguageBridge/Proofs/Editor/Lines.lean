import LanguageBridge.Editor.Document

/-!
# Lines of a text

A text has one line more than it has line breaks.  A line break cuts the lines in two: in front of
it are the lines of what stands in front, and behind it those of what stands behind
(`linesOf_append_newline`).  So what is put in front of a text moves its lines down and leaves them
as they are, provided that it ends with a line break; without one it would run into the first line.
-/

namespace LanguageBridge.Editor

/-- A line break at the start cuts off an empty line. -/
theorem linesOf_newline (rest : List Char) : linesOf ('\n' :: rest) = [] :: linesOf rest := by
  rw [linesOf, if_pos rfl]

theorem linesOf_ne_nil (cs : List Char) : linesOf cs ≠ [] := by
  cases cs with
  | nil => exact List.cons_ne_nil _ _
  | cons c rest =>
      rw [linesOf]
      split
      · exact List.cons_ne_nil _ _
      · split <;> exact List.cons_ne_nil _ _

/-- Any other character belongs to the first line. -/
theorem linesOf_cons {c : Char} (other : c ≠ '\n') {rest line : List Char}
    {more : List (List Char)} (lines : linesOf rest = line :: more) :
    linesOf (c :: rest) = (c :: line) :: more := by
  rw [linesOf, if_neg other, lines]

/-- A line break cuts the lines in two. -/
theorem linesOf_append_newline (front back : List Char) :
    linesOf (front ++ '\n' :: back) = linesOf front ++ linesOf back := by
  induction front with
  | nil => exact linesOf_newline back
  | cons c front ih =>
      rw [List.cons_append]
      by_cases break_ : c = '\n'
      · rw [break_, linesOf_newline, linesOf_newline, ih, List.cons_append]
      · obtain ⟨line, more, lines⟩ := List.exists_cons_of_ne_nil (linesOf_ne_nil front)
        rw [lines, List.cons_append] at ih
        rw [linesOf_cons break_ ih, linesOf_cons break_ lines, List.cons_append]

/-- There is one line more than there are line breaks. -/
theorem length_linesOf (cs : List Char) : (linesOf cs).length = cs.count '\n' + 1 := by
  induction cs with
  | nil => rfl
  | cons c rest ih =>
      by_cases break_ : c = '\n'
      · rw [break_, linesOf_newline, List.length_cons, ih, List.count_cons_self]
      · obtain ⟨line, more, lines⟩ := List.exists_cons_of_ne_nil (linesOf_ne_nil rest)
        rw [lines] at ih
        rw [linesOf_cons break_ lines, List.count_cons_of_ne break_]
        exact ih

/-- What ends with a line break moves the lines behind it down. -/
theorem getElem?_linesOf_behind (front text : List Char) (n : Nat) :
    (linesOf (front ++ ['\n'] ++ text))[n + (front ++ ['\n']).count '\n']? = (linesOf text)[n]? := by
  have down : (front ++ ['\n']).count '\n' = (linesOf front).length := by
    rw [length_linesOf, List.count_append, List.count_singleton_self]
  rw [List.append_assoc, List.singleton_append, linesOf_append_newline, down,
    List.getElem?_append_right (Nat.le_add_left _ n), Nat.add_sub_cancel]

end LanguageBridge.Editor
