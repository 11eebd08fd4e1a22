import LanguageBridge.Proofs.Editor.Merging
import LanguageBridge.Proofs.Text.Pieces

/-!
# Snippets for a typed word

A snippet is meant to be offered for every word that its label contains, whatever the case of the
letters.  The two are compared in lower case, each taken to it on its own, and so a word that its
label contains literally need not be found there: at the end of the word a capital sigma becomes a
final one, although the label goes on with a letter and has an ordinary one at that place
(`sigma_rejected`).

`literal_word_offered` says that nothing else can go wrong.  Where the word stands in the label, its
lower case is found exactly if its sigmas agree there; and those that have a character on either
side which case does not ignore, all within the word, agree wherever it stands.
-/

namespace LanguageBridge.Editor

open Server (CompletionItem)

namespace Snippet

variable {s : Snippet} {word : String} {before after : List Char}

/-- A snippet suits a word whose lower case stands in that of its label; the empty word always
does. -/
theorem suits_iff :
    s.suits word = true ↔
      ∃ front back, (Text.lower s.label).toList = front ++ (Text.lower word).toList ++ back := by
  rw [suits, Bool.or_eq_true, Text.occurs, Text.occursIn_iff, String.isEmpty_iff]
  refine or_iff_right_of_imp ?_
  rintro rfl
  exact ⟨[], (Text.lower s.label).toList, rfl⟩

/-- The label holds the lower case of the word at its place, and this is that of the word on its own
exactly if the sigmas agree. -/
theorem lower_label_of_place (place : s.label.toList = before ++ word.toList ++ after) :
    ∃ front back,
      (Text.lower s.label).toList
          = front ++ Text.lowerBetween before.reverse word.toList after ++ back ∧
        (Text.lowerBetween before.reverse word.toList after = (Text.lower word).toList ↔
          Text.SigmasAgree word.toList before.reverse after [] []) := by
  obtain ⟨front, back, whole⟩ := Text.lowerList_eq_of_piece place
  refine ⟨front, back, ?_, ?_⟩
  · rw [Text.lower, String.toList_ofList, whole]
  · rw [Text.lower, String.toList_ofList, Text.lowerBetween_eq_lowerList]

/-- A snippet suits a word that stands in its label and has its sigmas agree there. -/
theorem suits_of_agree (place : s.label.toList = before ++ word.toList ++ after)
    (agree : Text.SigmasAgree word.toList before.reverse after [] []) : s.suits word = true := by
  obtain ⟨front, back, whole, same⟩ := lower_label_of_place place
  exact suits_iff.2 ⟨front, back, by rw [whole, same.2 agree]⟩

/-- The case of the letters typed does not matter. -/
theorem suits_congr {typed : String} (same : Text.lower typed = Text.lower word) :
    s.suits typed = s.suits word := by
  rw [Bool.eq_iff_iff, suits_iff, suits_iff, same]

/-- The key of a snippet that suits the word is among those of the merged list. -/
theorem key_mem_merge {items : List CompletionItem} {snippets : List Snippet} {typed : WordAt}
    (line : UInt32) (mem : s ∈ snippets) (suited : s.suits typed.word = true) :
    (Suggestion.ofSnippet (Suggestions.rangeOf typed line) s).key ∈
      (Suggestions.merge items snippets typed line).suggestions.map Suggestion.key := by
  refine (Suggestions.firstOfEach_merge items snippets typed line).complete _ ?_
  exact List.mem_append_right _ (List.mem_map_of_mem (List.mem_filter.2 ⟨mem, suited⟩))

/-- A snippet suits exactly the words whose lower case stands in that of its label.  A word that the
label contains literally is one of them if its capital sigmas end words in the label exactly if they
do so in the word alone: the snippet then suits the word, typed in whatever case, and is among the
entries that are merged into the list.  At this place the lower case of the label holds that of the
word exactly if the sigmas agree so, and they do if each of them has a character on either side,
within the word, that case does not ignore. -/
theorem literal_word_offered (place : s.label.toList = before ++ word.toList ++ after) :
    (∀ typed, s.suits typed = true ↔
      ∃ front back, (Text.lower s.label).toList = front ++ (Text.lower typed).toList ++ back) ∧
    (Text.SigmasAgree word.toList before.reverse after [] [] →
      ∀ typed : WordAt, Text.lower typed.word = Text.lower word →
        s.suits typed.word = true ∧
        ∀ items snippets line, s ∈ snippets →
          (Suggestion.ofSnippet (Suggestions.rangeOf typed line) s).key ∈
            (Suggestions.merge items snippets typed line).suggestions.map Suggestion.key) ∧
    (∃ front back,
      (Text.lower s.label).toList
          = front ++ Text.lowerBetween before.reverse word.toList after ++ back ∧
        (Text.lowerBetween before.reverse word.toList after = (Text.lower word).toList ↔
          Text.SigmasAgree word.toList before.reverse after [] [])) ∧
    ((∀ x y, word.toList = x ++ 'Σ' :: y →
        (∃ c ∈ x, Text.isCaseIgnorable c = false) ∧ ∃ c ∈ y, Text.isCaseIgnorable c = false) →
      Text.SigmasAgree word.toList before.reverse after [] []) := by
  refine ⟨fun typed => suits_iff, fun agree typed same => ?_, lower_label_of_place place,
    fun inner => Text.sigmasAgree_of_inner inner before.reverse after⟩
  have suited : s.suits typed.word = true := (suits_congr same).trans (suits_of_agree place agree)
  exact ⟨suited, fun items snippets line mem => key_mem_merge line mem suited⟩

/-- A word that ends with a sigma, at the end of a word of the label. -/
theorem street_offered :
    let street : Snippet := ⟨"Η ΟΔΟΣ, ΑΣΤΥ", "x", none⟩
    street.label.toList = "Η ".toList ++ "ΟΔΟΣ".toList ++ ", ΑΣΤΥ".toList ∧
      street.suits "Οδος" = true ∧
      ∀ items line, (Suggestion.ofSnippet ⟨line, 3, line, 7⟩ street).key ∈
        (Suggestions.merge items [street] ⟨"Οδος", 3, 7⟩ line).suggestions.map Suggestion.key := by
  intro street
  have place : street.label.toList = "Η ".toList ++ "ΟΔΟΣ".toList ++ ", ΑΣΤΥ".toList := by decide
  have agree : Text.SigmasAgree "ΟΔΟΣ".toList "Η ".toList.reverse ", ΑΣΤΥ".toList [] [] :=
    Text.lowerBetween_eq_lowerList.1 (by decide +kernel)
  obtain ⟨suited, merged⟩ :=
    (literal_word_offered place).2.1 agree ⟨"Οδος", 3, 7⟩ (by decide +kernel)
  exact ⟨place, suited, fun items line => merged items [street] line (List.mem_singleton_self street)⟩

/-- The label starts with the word, which ends with a sigma, and goes on: the snippet does not suit
the word and is not offered. -/
theorem sigma_rejected :
    (⟨"ΑΣΑ", "x", none⟩ : Snippet).label.toList = [] ++ "ΑΣ".toList ++ ['Α'] ∧
      (⟨"ΑΣΑ", "x", none⟩ : Snippet).suits "ΑΣ" = false ∧
      Suggestions.merge [] [⟨"ΑΣΑ", "x", none⟩] ⟨"ΑΣ", 1, 3⟩ 1 = ⟨[]⟩ := by
  decide +kernel

end Snippet

end LanguageBridge.Editor
