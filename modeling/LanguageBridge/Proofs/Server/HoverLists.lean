import LanguageBridge.Server.Reply
import LanguageBridge.Proofs.Json.Records

/-!
# Hovers whose contents are a list

A server may write the contents of a hover as a list of elements, each a text or a piece of code in
some language, and every element that is not blank is to be shown as a block of its own.

Contents are tried as a marked-up text before they are tried as a list, and a record may be written
as a list of its fields.  A list of two texts is therefore taken for a marked-up text: the first
text becomes the name of the markup and is not shown.  `hover_list_blocks` says that this is the
only list that is reinterpreted.  All others, of whatever length and with whatever elements, are
read element by element.
-/

namespace LanguageBridge.Server

open Json (Decoder Fields under draft draftItems)

/-! ## Elements -/

namespace MarkedString

/-- How a server writes an element: a text as it is, code as an object with its language and its
text, and possibly with more fields. -/
inductive Written : Json → MarkedString → Prop where
  | plain (s : String) : Written (.text s) (.plain s)
  | code {fields : List (String × Json)} {language value : String}
      (language_ : under "language" fields = [.text language])
      (value_ : under "value" fields = [.text value]) :
      Written (.object fields) (.code language value)

/-- An element is read as it was written. -/
theorem Written.decoded {v : Json} {element : MarkedString} (written : Written v element) :
    decoder .value (draft v) = .ok element := by
  cases written with
  | plain s => rfl
  | code language_ value_ =>
    have read : codeDecoder .value (.object (Json.draftFields _)) = .ok (.code _ _) :=
      Decoder.fieldsOnly_pair (f := MarkedString.code)
        (Fields.ofFields_of_once language_ rfl) (Fields.ofFields_of_once value_ rfl)
    rw [draft, decoder, Decoder.either, read]

/-- Only a text is written as a text. -/
theorem Written.eq_plain {v : Json} {element : MarkedString} (written : Written v element)
    {s : String} (text : draft v = .text (some s)) : element = .plain s := by
  cases written with
  | plain s' => rw [Option.some.inj (Json.Draft.text.inj text)]
  | code => cases text

/-- The blocks that a list of elements should be shown as. -/
def visible (elements : List MarkedString) : List String :=
  (elements.map markdown).filter fun b => !Text.allBlank b

theorem visible_cons (element : MarkedString) (rest : List MarkedString) :
    visible (element :: rest) =
      if Text.allBlank element.markdown then visible rest else element.markdown :: visible rest := by
  unfold visible
  cases blank : Text.allBlank element.markdown <;> simp [blank]

end MarkedString

/-! ## Contents -/

theorem text_ok_iff {d : Json.Draft} {s : String} :
    Decoder.text .value d = .ok s ↔ d = .text (some s) := by
  constructor
  · intro read
    unfold Decoder.text at read
    split at read
    · rw [Except.ok.inj read]
    · cases read
  · rintro rfl
    rfl

/-- The lists that are taken for a marked-up text: those of exactly two texts. -/
theorem Markup.decoder_list_ok_iff {ds : List Json.Draft} {m : Markup} :
    decoder .value (.list ds) = .ok m ↔ ds = [.text (some m.kind), .text (some m.value)] := by
  constructor
  · intro read
    obtain ⟨fields, short⟩ := Decoder.record_list_eq_ok_iff.1 read
    obtain ⟨_, value, mapped, second, rfl⟩ := Fields.ofItems_seq_eq_ok_iff.1 fields
    obtain ⟨kind, first, rfl⟩ := Fields.ofItems_map_eq_ok_iff.1 mapped
    obtain ⟨d, rest, rfl, kind_⟩ := Fields.ofItems_required_eq_ok_iff.1 first
    obtain ⟨d', rest', behind, value_⟩ := Fields.ofItems_required_eq_ok_iff.1 second
    obtain rfl : rest = d' :: rest' := behind
    obtain rfl : rest' = [] := List.eq_nil_of_length_eq_zero (by
      have : rest'.length + 2 ≤ 2 := short
      omega)
    rw [text_ok_iff.1 kind_, text_ok_iff.1 value_]
  · rintro rfl
    rfl

namespace HoverContents

/-- What a list of elements is taken for. -/
def ofElements : List MarkedString → HoverContents
  | [.plain kind, .plain value] => .markup ⟨kind, value⟩
  | elements => .many elements

/-- A list that is not of two texts is read as a list. -/
theorem ofElements_eq_many {elements : List MarkedString}
    (other : ∀ a b, elements ≠ [.plain a, .plain b]) : ofElements elements = .many elements := by
  unfold ofElements
  split
  · exact absurd rfl (other _ _)
  · rfl

/-- A written list of elements is taken for a marked-up text if it is one of two texts. -/
theorem decoder_of_written {items : List Json} {elements : List MarkedString}
    (written : List.Forall₂ MarkedString.Written items elements) :
    decoder .value (.list (draftItems items)) = .ok (ofElements elements) := by
  have many : Decoder.list MarkedString.decoder .value (.list (draftItems items)) = .ok elements :=
    Decoder.items_of_forall₂ (written.imp fun _ _ w => w.decoded)
  cases read : Markup.decoder .value (.list (draftItems items)) with
  | ok m =>
    have pair := Markup.decoder_list_ok_iff.1 read
    obtain _ | ⟨first, _ | ⟨second, _ | _⟩⟩ := written <;>
      simp only [draftItems, List.cons.injEq, reduceCtorEq, and_false, and_true] at pair
    rw [first.eq_plain pair.1, second.eq_plain pair.2]
    simp only [decoder, Decoder.either, Decoder.map, read, Except.map, ofElements]
  | error e =>
    have other : ∀ a b, elements ≠ [.plain a, .plain b] := by
      rintro a b rfl
      obtain _ | ⟨first, _ | ⟨second, _ | _⟩⟩ := written
      cases first
      cases second
      cases read
    rw [ofElements_eq_many other]
    simp only [decoder, Decoder.either, Decoder.map, read, many, Except.map]

/-- Of two texts the second one is shown. -/
theorem blocks_pair (a b : String) :
    (ofElements [.plain a, .plain b]).blocks = MarkedString.visible [.plain b] := rfl

end HoverContents

/-! ## Hovers -/

namespace Hover

/-- A hover reply, given by its fields, whose contents are a list of elements. -/
structure Lists (fields : List (String × Json)) (elements : List MarkedString)
    (range : Option Range) : Prop where
  contents : ∃ items, under "contents" fields = [.list items] ∧
    List.Forall₂ MarkedString.Written items elements
  /-- The range is left out, `null`, or decodes. -/
  range : Fields.Optional Range.decoder (under "range" fields) range

/-- A hover with a list for its contents is decoded as what its elements are taken for. -/
theorem decoder_of_lists {fields : List (String × Json)} {elements : List MarkedString}
    {range : Option Range} (lists : Lists fields elements range) :
    decoder.ofValue (.object fields) = .ok ⟨.ofElements elements, range⟩ := by
  obtain ⟨items, once, written⟩ := lists.contents
  exact Decoder.fieldsOnly_pair
    (Fields.ofFields_of_once once (HoverContents.decoder_of_written written))
    (Fields.ofFields_optional lists.range)

/-- A hover reply whose contents are a list decodes, and every element that is not blank becomes a
block of its own, in order, unless the list consists of two texts of which the first is not blank:
of two texts only the second is shown. -/
theorem hover_list_blocks {fields : List (String × Json)} {elements : List MarkedString}
    {range : Option Range} (lists : Lists fields elements range) :
    ∃ contents, decoder.ofValue (.object fields) = .ok ⟨contents, range⟩ ∧
      (contents.blocks = MarkedString.visible elements ↔
        ∀ a b, elements = [.plain a, .plain b] → Text.allBlank a = true) ∧
      ∀ a b, elements = [.plain a, .plain b] → contents.blocks = MarkedString.visible [.plain b] := by
  refine ⟨_, decoder_of_lists lists, ?_, ?_⟩
  · by_cases pair : ∃ a b, elements = [.plain a, .plain b]
    · obtain ⟨a, b, rfl⟩ := pair
      rw [HoverContents.blocks_pair, MarkedString.visible_cons (.plain a), MarkedString.markdown]
      constructor
      · rintro same _ _ ⟨rfl, rfl⟩
        by_contra shown
        rw [if_neg shown] at same
        exact List.cons_ne_self _ _ same.symm
      · intro blank
        rw [if_pos (blank a b rfl)]
    · rw [HoverContents.ofElements_eq_many fun a b h => pair ⟨a, b, h⟩]
      exact ⟨fun _ a b h => absurd ⟨a, b, h⟩ pair, fun _ => rfl⟩
  · rintro a b rfl
    exact HoverContents.blocks_pair a b

/-- A list of a text, a piece of code and a blank text: all that is not blank is shown. -/
theorem hover_list_of_three :
    ∃ fields elements range, Lists fields elements range ∧
      elements = [.plain "f adds", .code "rust" "fn f()", .plain " "] ∧
      ∃ contents, decoder.ofValue (.object fields) = .ok ⟨contents, range⟩ ∧
        contents.blocks = ["f adds", "```rust\nfn f()\n```"] := by
  have lists : Lists
      [("contents", .list [.text "f adds",
        .object [("language", .text "rust"), ("value", .text "fn f()")], .text " "]),
        ("range", .null)]
      [.plain "f adds", .code "rust" "fn f()", .plain " "] none := by
    refine ⟨⟨_, rfl, ?_⟩, .inr rfl⟩
    exact .cons (.plain _) (.cons (.code rfl rfl) (.cons (.plain _) .nil))
  obtain ⟨contents, read, all, -⟩ := hover_list_blocks lists
  refine ⟨_, _, _, lists, rfl, contents, read, ?_⟩
  rw [all.2 (by rintro a b ⟨⟩)]
  decide +kernel

/-- A list of two texts: the first one is not shown. -/
theorem hover_pair_loses_first :
    Lists [("contents", .list [.text "a", .text "b"])] [.plain "a", .plain "b"] none ∧
      decoder.ofValue (.object [("contents", .list [.text "a", .text "b"])]) =
        .ok ⟨.markup ⟨"a", "b"⟩, none⟩ ∧
      (HoverContents.markup ⟨"a", "b"⟩).blocks = ["b"] ∧
      MarkedString.visible [.plain "a", .plain "b"] = ["a", "b"] := by
  refine ⟨⟨⟨_, rfl, ?_⟩, .inl rfl⟩, rfl, by decide +kernel, by decide +kernel⟩
  exact .cons (.plain _) (.cons (.plain _) .nil)

end Hover
end LanguageBridge.Server
