import LanguageBridge.Editor.Result
import LanguageBridge.Proofs.Json.RoundTrip

/-!
# Results on their way

Everything that the editor is given for a request comes back from its written form: suggestions, a
hover and signatures with all their parts, whichever of the optional ones there are.

Each type has its own `roundTrip`, put together from those of its fields in the order of its
decoder.  They are what the messages for the host are made of.
-/

namespace LanguageBridge

open Json (Decoder Fields Plain PlainFields RoundTrip under under_append under_cons
  under_field? under_nil)

/-- The label of a parameter is told apart by its form: a text, or a list of two offsets. -/
theorem Server.ParameterLabel.roundTrip : RoundTrip toJson decoder where
  plain := fun label => by
    cases label with
    | plain s => exact .text s
    | offsets start stop =>
        refine .list ?_
        simp only [List.mem_cons, List.not_mem_nil, or_false, forall_eq_or_imp, forall_eq]
        exact ⟨RoundTrip.word32.plain start, RoundTrip.word32.plain stop⟩
  decode := fun source label => by
    cases label with
    | plain s => exact rfl
    | offsets start stop =>
        have read : offsetsDecoder source
            (.list [Json.draft (.nat start.toNat), Json.draft (.nat stop.toNat)])
            = .ok (.offsets start stop) := by
          rw [offsetsDecoder, RoundTrip.word32.decode source start]
          simp only [RoundTrip.word32.decode source stop]
          rfl
        exact Decoder.either_of_second rfl read

namespace Editor

/-- A position is written under the names of its fields, although one of them may go by another. -/
theorem Position.roundTrip : RoundTrip toJson decoder where
  plain := fun _ =>
    PlainFields.object (.cons (RoundTrip.word32.plain _) (.cons (RoundTrip.word32.plain _) .nil))
  decode := fun source _ =>
    Decoder.record_of_gives (((Fields.gives_requiredAlso .word32 rfl).map _).seq
      (Fields.gives_required .word32 rfl)) _ source

/-- A range comes back with all four of its numbers. -/
theorem Range.roundTrip : RoundTrip toJson decoder where
  plain := fun _ => PlainFields.object (.cons (RoundTrip.word32.plain _)
    (.cons (RoundTrip.word32.plain _) (.cons (RoundTrip.word32.plain _)
      (.cons (RoundTrip.word32.plain _) .nil))))
  decode := fun source _ =>
    Decoder.record_of_gives (((((Fields.gives_required .word32 rfl).map _).seq
      (Fields.gives_required .word32 rfl)).seq (Fields.gives_required .word32 rfl)).seq
        (Fields.gives_required .word32 rfl)) _ source

theorem Markdown.roundTrip : RoundTrip toJson decoder where
  plain := fun _ => PlainFields.object (.cons (.text _) .nil)
  decode := fun source _ =>
    Decoder.record_of_gives ((Fields.gives_required .text rfl).map _) _ source

/-! ## Completion -/

/-- A snippet comes back, with or without its description. -/
theorem Snippet.roundTrip : RoundTrip toJson decoder where
  plain := fun _ =>
    PlainFields.object (.cons (.text _) (.cons (.text _) (.field? .text _)))
  decode := fun source _ => by
    refine Decoder.record_of_gives ((((Fields.gives_required .text ?_).map _).seq
      (Fields.gives_required .text ?_)).seq (Fields.gives_field? .text (fun _ => rfl) ?_ _)) _ source
    all_goals simp [under_cons, under_field?]

/-- A suggestion comes back, with any of its optional parts. -/
theorem Suggestion.roundTrip : RoundTrip toJson decoder where
  plain := fun _ => PlainFields.object <| .append (.append (.append (.append
    (.cons (.text _) (.field? RoundTrip.word32.plain _))
    (.cons (.text _) (.cons (.bool _) (.field? .text _))))
    (.field? Markdown.roundTrip.plain _)) (.field? .text _))
    (.cons (Range.roundTrip.plain _) .nil)
  decode := fun source _ => by
    refine Decoder.record_of_gives ((((((((Fields.gives_required .text ?_).map _).seq
      (Fields.gives_field? .word32 (fun _ => rfl) ?_ _)).seq
      (Fields.gives_required .text ?_)).seq (Fields.gives_withDefault .bool ?_ _)).seq
      (Fields.gives_field? .text (fun _ => rfl) ?_ _)).seq
      (Fields.gives_field? Markdown.roundTrip (fun _ => rfl) ?_ _)).seq
      (Fields.gives_field? .text (fun _ => rfl) ?_ _) |>.seq
      (Fields.gives_required Range.roundTrip ?_)) _ source
    all_goals simp [under_nil, under_cons, under_append, under_field?]

theorem Suggestions.roundTrip : RoundTrip toJson decoder where
  plain := fun _ => PlainFields.object (.cons (Suggestion.roundTrip.list.plain _) .nil)
  decode := fun source _ =>
    Decoder.record_of_gives ((Fields.gives_required Suggestion.roundTrip.list rfl).map _) _ source

/-! ## Hover -/

theorem Hover.roundTrip : RoundTrip toJson decoder where
  plain := fun _ => PlainFields.object
    (.cons (Markdown.roundTrip.list.plain _) (.field? Range.roundTrip.plain _))
  decode := fun source _ => by
    refine Decoder.record_of_gives (((Fields.gives_required Markdown.roundTrip.list ?_).map _).seq
      (Fields.gives_field? Range.roundTrip (fun _ => rfl) ?_ _)) _ source
    all_goals simp [under_cons, under_field?]

/-! ## Signature help -/

/-- A parameter comes back, its label a text or a pair of places. -/
theorem Parameter.roundTrip : RoundTrip toJson decoder where
  plain := fun _ => PlainFields.object
    (.cons (Server.ParameterLabel.roundTrip.plain _) (.field? Markdown.roundTrip.plain _))
  decode := fun source _ => by
    refine Decoder.record_of_gives (((Fields.gives_required Server.ParameterLabel.roundTrip
      ?_).map _).seq (Fields.gives_field? Markdown.roundTrip (fun _ => rfl) ?_ _)) _ source
    all_goals simp [under_cons, under_field?]

theorem Signature.roundTrip : RoundTrip toJson decoder where
  plain := fun _ => PlainFields.object <| .append
    (.cons (.text _) (.field? Markdown.roundTrip.plain _))
    (.cons (Parameter.roundTrip.list.plain _) .nil)
  decode := fun source _ => by
    refine Decoder.record_of_gives ((((Fields.gives_required .text ?_).map _).seq
      (Fields.gives_field? Markdown.roundTrip (fun _ => rfl) ?_ _)).seq
      (Fields.gives_required Parameter.roundTrip.list ?_)) _ source
    all_goals simp [under_nil, under_cons, under_append, under_field?]

theorem SignatureHelp.roundTrip : RoundTrip toJson decoder where
  plain := fun _ => PlainFields.object (.cons (Signature.roundTrip.list.plain _)
    (.cons (RoundTrip.word32.plain _) (.cons (RoundTrip.word32.plain _) .nil)))
  decode := fun source _ =>
    Decoder.record_of_gives ((((Fields.gives_required Signature.roundTrip.list rfl).map _).seq
      (Fields.gives_required .word32 rfl)).seq (Fields.gives_required .word32 rfl)) _ source

end Editor
end LanguageBridge
