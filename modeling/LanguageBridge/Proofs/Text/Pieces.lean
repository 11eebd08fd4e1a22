import LanguageBridge.Text.LowerCase
import LanguageBridge.Text.Search
import Mathlib.Data.List.Basic

/-!
# The lower case of a piece of a text

A character is taken to lower case on its own, unless it is a capital sigma, which looks at what
stands around it.  So the lower case of a text is the lower case of its pieces, each taken at its
place (`lowerAfter_append`), and a piece at its place has the lower case that it has alone exactly
if its capital sigmas end words at that place exactly if they do so in the piece
(`lowerBetween_eq_lowerList`).

What is beyond an end of the piece matters to a sigma only if nothing but characters that case
ignores stands between the two; sigmas that are further inside agree (`sigmasAgree_of_inner`).

What stands in front of a place is kept in reverse, nearest character first, as the conversion does;
so a sigma looks at the starts of two lists (`endsWord`).
-/

namespace LanguageBridge.Text

/-! ## Places -/

/-- Whether a word ends with a capital sigma, where `before` holds the characters in front of it,
the nearest first, and `rest` those behind it. -/
def endsWord (before rest : List Char) : Bool := startsCased before && !startsCased rest

/-- The lower case of a character at a place. -/
def lowerAt (before : List Char) (c : Char) (rest : List Char) : List Char :=
  if c = 'Σ' then [if endsWord before rest then 'ς' else 'σ'] else lowerChar c

/-- The lower case of `cs` at a place, where `before` holds the characters in front of it, the
nearest first, and `after` those behind it. -/
def lowerBetween (before : List Char) : (cs after : List Char) → List Char
  | [], _ => []
  | c :: rest, after => lowerAt before c (rest ++ after) ++ lowerBetween (c :: before) rest after

/-- The lower case of a text is that of its pieces at their places. -/
theorem lowerAfter_append (before cs after : List Char) :
    lowerAfter before (cs ++ after)
      = lowerBetween before cs after ++ lowerAfter (cs.reverse ++ before) after := by
  induction cs generalizing before with
  | nil => rfl
  | cons c rest ih =>
      have own : lowerAfter before (c :: (rest ++ after))
          = lowerAt before c (rest ++ after) ++ lowerAfter (c :: before) (rest ++ after) := rfl
      rw [List.cons_append, own, ih, lowerBetween, List.reverse_cons, List.append_assoc,
        List.append_assoc, List.singleton_append]

/-- With nothing behind it a piece is the rest of the text. -/
theorem lowerBetween_nil (before cs : List Char) :
    lowerBetween before cs [] = lowerAfter before cs := by
  have whole := lowerAfter_append before cs []
  rw [List.append_nil, lowerAfter, List.append_nil] at whole
  exact whole.symm

/-- The lower case of a text in which a piece stands holds that of the piece at its place. -/
theorem lowerList_eq_of_piece {cs before piece after : List Char}
    (place : cs = before ++ piece ++ after) :
    ∃ front back, lowerList cs = front ++ lowerBetween before.reverse piece after ++ back := by
  refine ⟨lowerBetween [] before (piece ++ after),
    lowerAfter (piece.reverse ++ before.reverse) after, ?_⟩
  rw [place, List.append_assoc, lowerList, lowerAfter_append, List.append_nil, lowerAfter_append,
    List.append_assoc]

/-! ## Sigmas -/

/-- The capital sigmas of `cs` end words at one place exactly if they do so at another one. -/
def SigmasAgree (cs before after before' after' : List Char) : Prop :=
  ∀ x y, cs = x ++ 'Σ' :: y →
    endsWord (x.reverse ++ before) (y ++ after) = endsWord (x.reverse ++ before') (y ++ after')

/-- Where there is no sigma there is nothing to agree on. -/
theorem sigmasAgree_nil (before after before' after' : List Char) :
    SigmasAgree [] before after before' after' := fun x y split =>
  absurd split.symm (by simp)

/-- The first character is looked at in its surroundings, and the others in theirs. -/
theorem sigmasAgree_cons {c : Char} {rest before after before' after' : List Char} :
    SigmasAgree (c :: rest) before after before' after' ↔
      (c = 'Σ' → endsWord before (rest ++ after) = endsWord before' (rest ++ after')) ∧
        SigmasAgree rest (c :: before) after (c :: before') after' := by
  constructor
  · intro agree
    refine ⟨fun sigma => agree [] rest (by rw [sigma]; rfl), fun x y split => ?_⟩
    simpa using agree (c :: x) y (by rw [split]; rfl)
  · rintro ⟨first, others⟩ x y split
    cases x with
    | nil =>
        obtain ⟨sigma, rfl⟩ := List.cons.inj split
        exact first sigma
    | cons d x =>
        obtain ⟨rfl, behind⟩ := List.cons.inj split
        simpa using others x y behind

/-- A character becomes as many, wherever it stands. -/
theorem length_lowerAt (before before' : List Char) (c : Char) (rest rest' : List Char) :
    (lowerAt before c rest).length = (lowerAt before' c rest').length := by
  unfold lowerAt
  split <;> rfl

/-- A character is taken to the same lower case at two places unless it is a sigma that ends a
word at one of them. -/
theorem lowerAt_eq_iff {before before' : List Char} {c : Char} {rest rest' : List Char} :
    lowerAt before c rest = lowerAt before' c rest' ↔
      (c = 'Σ' → endsWord before rest = endsWord before' rest') := by
  unfold lowerAt
  by_cases sigma : c = 'Σ'
  · rw [if_pos sigma, if_pos sigma]
    cases endsWord before rest <;> cases endsWord before' rest' <;> simp [sigma]
  · rw [if_neg sigma, if_neg sigma]
    exact ⟨fun _ own => absurd own sigma, fun _ => rfl⟩

/-- A piece has the same lower case at two places exactly if its sigmas agree there. -/
theorem lowerBetween_eq_iff {cs before after before' after' : List Char} :
    lowerBetween before cs after = lowerBetween before' cs after' ↔
      SigmasAgree cs before after before' after' := by
  induction cs generalizing before before' with
  | nil => exact ⟨fun _ => sigmasAgree_nil _ _ _ _, fun _ => rfl⟩
  | cons c rest ih =>
      rw [lowerBetween, lowerBetween, sigmasAgree_cons, ← ih, ← lowerAt_eq_iff]
      constructor
      · exact fun same => List.append_inj same (length_lowerAt _ _ _ _ _)
      · rintro ⟨first, others⟩
        rw [first, others]

/-- A piece has the lower case at its place that it has alone exactly if its sigmas agree. -/
theorem lowerBetween_eq_lowerList {cs before after : List Char} :
    lowerBetween before cs after = lowerList cs ↔ SigmasAgree cs before after [] [] := by
  rw [← lowerBetween_eq_iff, lowerBetween_nil, lowerList]

/-! ## What is beyond the ends of a piece -/

/-- Behind a character that case does not ignore, nothing matters. -/
theorem startsCased_append_of_solid {cs : List Char}
    (solid : ∃ c ∈ cs, isCaseIgnorable c = false) (more : List Char) :
    startsCased (cs ++ more) = startsCased cs := by
  induction cs with
  | nil => simp at solid
  | cons c rest ih =>
      cases own : isCaseIgnorable c with
      | false => simp [startsCased, own]
      | true =>
          obtain ⟨d, mem, solid⟩ := solid
          rcases List.mem_cons.1 mem with rfl | later
          · rw [own] at solid
            cases solid
          · have next := ih ⟨d, later, solid⟩
            simpa [startsCased, own] using next

/-- A sigma with such a character on both sides does not see beyond the ends of the piece. -/
theorem endsWord_append_of_solid {x y : List Char} (front : ∃ c ∈ x, isCaseIgnorable c = false)
    (back : ∃ c ∈ y, isCaseIgnorable c = false) (before after : List Char) :
    endsWord (x.reverse ++ before) (y ++ after) = endsWord x.reverse y := by
  have front' : ∃ c ∈ x.reverse, isCaseIgnorable c = false := by simpa using front
  rw [endsWord, startsCased_append_of_solid front', startsCased_append_of_solid back, endsWord]

/-- Sigmas that all stand between such characters agree, whatever is beyond the ends of the
piece. -/
theorem sigmasAgree_of_inner {cs : List Char}
    (inner : ∀ x y, cs = x ++ 'Σ' :: y →
      (∃ c ∈ x, isCaseIgnorable c = false) ∧ ∃ c ∈ y, isCaseIgnorable c = false)
    (before after : List Char) : SigmasAgree cs before after [] [] := by
  intro x y split
  obtain ⟨front, back⟩ := inner x y split
  rw [endsWord_append_of_solid front back, List.append_nil, List.append_nil]

end LanguageBridge.Text
