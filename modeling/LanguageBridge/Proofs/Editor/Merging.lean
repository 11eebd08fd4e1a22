import LanguageBridge.Editor.Shaping
import LanguageBridge.Proofs.Server.Suggestions
import Mathlib.Data.List.Induction
import Mathlib.Data.List.Nodup

/-!
# Suggestions merged

The suggestions of the server and the snippets that suit the typed word are offered in one list, in
which no two entries have the same key: the label, the text to insert and the kind.
`completion_merged` says which entries these are, whatever the server sends and in which of the two
shapes it sends it: of the entries of both sources, one after the other, those whose key none in
front of them has (`Suggestion.withNewKey`).

The list is merged in one pass that remembers the keys it has seen.  The proofs go along the list
from its start, one more entry at its end each time, since what becomes of an entry depends on those
in front of it and on nothing behind it (`Suggestion.firsts_concat`).
-/

namespace LanguageBridge.Editor

open Server (CompletionItem CompletionReply)

/-! ## The first entry of each key -/

namespace Suggestion

/-- The entries of a list whose key no entry in front of them has. -/
def withNewKey (all : List Suggestion) : List Suggestion :=
  (all.zipIdx.filter fun (s, i) => s.key ∉ (all.take i).map key).map Prod.fst

/-- What becomes of one more entry depends on the keys in front of it. -/
theorem firsts_concat (seen : List Key) (all : List Suggestion) (s : Suggestion) :
    firsts seen (all ++ [s])
      = firsts seen all ++ if s.key ∈ seen ∨ s.key ∈ all.map key then [] else [s] := by
  induction all generalizing seen with
  | nil => simp [firsts]
  | cons first rest ih =>
      rw [List.cons_append, firsts, firsts]
      by_cases known : first.key ∈ seen
      · have same : (s.key ∈ seen ∨ s.key ∈ (first :: rest).map key) ↔
            (s.key ∈ seen ∨ s.key ∈ rest.map key) := by
          rw [List.map_cons, List.mem_cons]
          constructor
          · rintro (old | own | later)
            · exact .inl old
            · exact .inl (own ▸ known)
            · exact .inr later
          · exact Or.imp_right Or.inr
        rw [if_pos known, if_pos known, ih, if_congr same rfl rfl]
      · have same : (s.key ∈ seen ∨ s.key ∈ (first :: rest).map key) ↔
            (s.key ∈ first.key :: seen ∨ s.key ∈ rest.map key) := by
          rw [List.map_cons, List.mem_cons, List.mem_cons, or_left_comm, or_assoc]
        rw [if_neg known, if_neg known, ih, if_congr same rfl rfl, List.cons_append]

theorem withNewKey_concat (all : List Suggestion) (s : Suggestion) :
    withNewKey (all ++ [s]) = withNewKey all ++ if s.key ∈ all.map key then [] else [s] := by
  have before : (all.zipIdx.filter fun (t, i) => t.key ∉ ((all ++ [s]).take i).map key)
      = all.zipIdx.filter fun (t, i) => t.key ∉ (all.take i).map key := by
    refine List.filter_congr fun ⟨t, i⟩ mem => ?_
    have within : i < all.length := (List.mem_zipIdx' mem).1
    simp only [List.take_append_of_le_length (Nat.le_of_lt within)]
  rw [withNewKey, List.zipIdx_append, List.filter_append, before, List.map_append, ← withNewKey]
  congr 1
  by_cases known : s.key ∈ all.map key
  · simp [known]
  · simp [known]

/-- Some entries of a list are the first ones of each key. -/
structure FirstOfEach (all kept : List Suggestion) : Prop where
  /-- They are those whose key no entry in front of them has. -/
  exact : kept = withNewKey all
  /-- They are entries of the list, in its order. -/
  order : kept.Sublist all
  /-- No two of them have the same key. -/
  distinct : (kept.map key).Nodup
  /-- Every key is there. -/
  complete : ∀ s ∈ all, s.key ∈ kept.map key
  /-- Each of them is the first entry with its key, with all its fields. -/
  first : ∀ s ∈ kept, all.find? (·.key = s.key) = some s

namespace FirstOfEach

variable {all kept : List Suggestion} {s : Suggestion}

theorem nil : FirstOfEach [] [] := ⟨rfl, .slnil, .nil, nofun, nofun⟩

/-- One more entry, with a key that was there before. -/
theorem skip (firsts : FirstOfEach all kept) (known : s.key ∈ all.map key) :
    FirstOfEach (all ++ [s]) kept where
  exact := by rw [withNewKey_concat, if_pos known, List.append_nil, firsts.exact]
  order := firsts.order.trans (List.sublist_append_left all [s])
  distinct := firsts.distinct
  complete := by
    intro t mem
    rcases List.mem_append.1 mem with before | own
    · exact firsts.complete t before
    · obtain ⟨first, there, same⟩ := List.mem_map.1 known
      rw [List.mem_singleton.1 own, ← same]
      exact firsts.complete first there
  first := fun t mem => by rw [List.find?_append, firsts.first t mem, Option.some_or]

/-- One more entry, with a new key. -/
theorem keep (firsts : FirstOfEach all kept) (new : s.key ∉ all.map key) :
    FirstOfEach (all ++ [s]) (kept ++ [s]) where
  exact := by rw [withNewKey_concat, if_neg new, firsts.exact]
  order := firsts.order.append (.refl [s])
  distinct := by
    rw [List.map_append, List.map_singleton]
    refine List.nodup_append.2 ⟨firsts.distinct, List.nodup_singleton _, ?_⟩
    rintro _ mem _ own rfl
    rw [List.mem_singleton.1 own] at mem
    exact new ((firsts.order.map key).subset mem)
  complete := by
    intro t mem
    rw [List.map_append, List.mem_append]
    rcases List.mem_append.1 mem with before | own
    · exact .inl (firsts.complete t before)
    · exact .inr (List.mem_map_of_mem own)
  first := by
    intro t mem
    rw [List.find?_append]
    rcases List.mem_append.1 mem with before | own
    · rw [firsts.first t before, Option.some_or]
    · have absent : all.find? (·.key = t.key) = none := by
        refine List.find?_eq_none.2 fun other there same => new ?_
        rw [← List.mem_singleton.1 own, ← of_decide_eq_true same]
        exact List.mem_map_of_mem there
      rw [absent, Option.none_or, List.mem_singleton.1 own]
      simp

end FirstOfEach

/-- One pass keeps the first entry of each key. -/
theorem firstOfEach_firsts (all : List Suggestion) : FirstOfEach all (firsts [] all) := by
  induction all using List.reverseRecOn with
  | nil => exact .nil
  | append_singleton all s ih =>
      rw [firsts_concat]
      by_cases known : s.key ∈ all.map key
      · rw [if_pos (.inr known), List.append_nil]
        exact ih.skip known
      · rw [if_neg (by simpa using known)]
        exact ih.keep known

end Suggestion

/-! ## Both sources -/

namespace Suggestions

/-- The entries of both sources at a range: the suggestions of the server, followed by the snippets
that suit the word. -/
def offered (items : List CompletionItem) (snippets : List Snippet) (word : String) (range : Range) :
    List Suggestion :=
  items.map (.ofItem range) ++ (snippets.filter (·.suits word)).map (.ofSnippet range)

/-- All that is offered stands in the range of the word. -/
theorem range_of_mem_offered {items : List CompletionItem} {snippets : List Snippet} {word : String}
    {range : Range} {s : Suggestion} (mem : s ∈ offered items snippets word range) :
    s.range = range := by
  rcases List.mem_append.1 mem with own | own
  · obtain ⟨i, -, rfl⟩ := List.mem_map.1 own
    rfl
  · obtain ⟨snippet, -, rfl⟩ := List.mem_map.1 own
    rfl

/-- The list that is merged keeps the first of each key of all that is offered. -/
theorem firstOfEach_merge (items : List CompletionItem) (snippets : List Snippet) (word : WordAt)
    (line : UInt32) :
    Suggestion.FirstOfEach (offered items snippets word.word (rangeOf word line))
      (merge items snippets word line).suggestions :=
  Suggestion.firstOfEach_firsts _

end Suggestions

/-- Whatever suggestions a server has, they can be sent; and in whatever form each of them is sent,
and in either shape of the reply, the answer is their merge with the snippets for the word at the
place of the request.  And for every word and line, such a merge consists of the first entry of each
key among the suggestions of the server, followed by the snippets that suit the word, all for the
columns of the word on that line. -/
theorem completion_merged (items : List CompletionItem) (snippets : List Snippet) :
    (∃ values, List.Forall₂ (fun v i => CompletionItem.decoder.ofValue v = .ok i) values items) ∧
    (∀ values, List.Forall₂ (fun v i => CompletionItem.decoder.ofValue v = .ok i) values items →
      ∀ reply, CompletionReply.Carries values reply → ∀ text place lines,
        Answer.ofReply snippets ⟨text, place, lines⟩ .completion reply
          = .ok (.completion (.merge items snippets (wordBefore text place) place.line))) ∧
    ∀ (word : WordAt) (line : UInt32),
      let range : Range := ⟨line, word.startColumn, line, word.endColumn⟩
      Suggestion.FirstOfEach (Suggestions.offered items snippets word.word range)
        (Suggestions.merge items snippets word line).suggestions ∧
      ∀ s ∈ (Suggestions.merge items snippets word line).suggestions, s.range = range := by
  refine ⟨⟨items.map CompletionItem.toJson, ?_⟩, ?_, ?_⟩
  · refine List.forall₂_map_left_iff.2 (List.forall₂_same.2 fun i _ => ?_)
    exact CompletionItem.roundTrip.decode .value i
  · intro values read reply carries text place lines
    obtain ⟨r, decoded, same⟩ := CompletionReply.items_of_carries carries read
    have content : reply.isNull = false := by
      cases carries <;> rfl
    rw [Answer.ofReply, if_neg (Bool.eq_false_iff.1 content), Answer.ofContent, decoded, ← same]
    rfl
  · intro word line range
    have merged := Suggestions.firstOfEach_merge items snippets word line
    exact ⟨merged, fun s mem => Suggestions.range_of_mem_offered (merged.order.subset mem)⟩

/-- Two suggestions with one text to insert, named by only one of them, and a snippet that the
server offers too: of each key the first entry is left.  A snippet suits a word in other letters,
and another does not suit it. -/
theorem prints_merged :
    ∃ values items, List.Forall₂ (fun v i => CompletionItem.decoder.ofValue v = .ok i) values items ∧
      CompletionReply.Carries values (.object [("isIncomplete", .bool true), ("items", .list values)]) ∧
      ∃ answer : Suggestions,
        Answer.ofReply
            [⟨"prop", "p", some "from here"⟩, ⟨"My PRINT", "q", none⟩, ⟨"main", "m", none⟩]
            ⟨"pr", ⟨1, 3⟩, 0⟩ .completion
            (.object [("isIncomplete", .bool true), ("items", .list values)])
          = .ok (.completion answer) ∧
        answer.suggestions.map (fun s => (s.label, s.detail, s.range)) =
          [("print", some "first", ⟨1, 1, 1, 3⟩), ("prop", none, ⟨1, 1, 1, 3⟩),
            ("My PRINT", none, ⟨1, 1, 1, 3⟩)] := by
  let values : List Json := [
    .object [("label", .text "print"), ("kind", .nat 3), ("detail", .text "first")],
    .object [("label", .text "print"), ("kind", .nat 3), ("insertText", .text "print")],
    .object [("label", .text "prop"), ("kind", .nat 15), ("insertText", .text "p")]]
  let items : List CompletionItem := [
    ⟨"print", some 3, some "first", none, none, none, none, none⟩,
    ⟨"print", some 3, none, none, some "print", none, none, none⟩,
    ⟨"prop", some 15, none, none, some "p", none, none, none⟩]
  have read : List.Forall₂ (fun v i => CompletionItem.decoder.ofValue v = .ok i) values items :=
    .cons rfl (.cons rfl (.cons rfl .nil))
  have carries : CompletionReply.Carries values
      (.object [("isIncomplete", .bool true), ("items", .list values)]) :=
    .wrapped rfl (.inr ⟨true, rfl⟩)
  refine ⟨values, items, read, carries, _,
    (completion_merged items _).2.1 values read _ carries _ _ _, ?_⟩
  decide +kernel

end LanguageBridge.Editor
