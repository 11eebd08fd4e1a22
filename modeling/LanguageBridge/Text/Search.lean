/-!
# Searching in a text

`occursIn` says whether one list of characters stands somewhere in another without gaps;
`occursIn_iff` ties it to the split of the longer list around the shorter.
-/

namespace LanguageBridge.Text

/-- Whether `part` stands somewhere in a list of characters. -/
def occursIn (part : List Char) : List Char → Bool
  | [] => part.isEmpty
  | c :: rest => part.isPrefixOf (c :: rest) || occursIn part rest

theorem occursIn_iff (part cs : List Char) :
    occursIn part cs = true ↔ ∃ before after, cs = before ++ part ++ after := by
  induction cs with
  | nil => simp [occursIn]
  | cons c rest ih =>
    simp only [occursIn, Bool.or_eq_true, List.isPrefixOf_iff_prefix, ih]
    constructor
    · rintro (⟨after, h⟩ | ⟨before, after, h⟩)
      · exact ⟨[], after, by simp [h]⟩
      · exact ⟨c :: before, after, by simp [h]⟩
    · rintro ⟨before, after, h⟩
      cases before with
      | nil => exact .inl ⟨after, by simpa using h.symm⟩
      | cons b before =>
        simp only [List.cons_append, List.cons.injEq] at h
        exact .inr ⟨before, after, h.2⟩

/-- Whether one text occurs in another. -/
def occurs (part text : String) : Bool := occursIn part.toList text.toList

end LanguageBridge.Text
